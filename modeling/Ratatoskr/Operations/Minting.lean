import Ratatoskr.Lib.Protocol
import Ratatoskr.Operations.Writers

/-! The transactions that mint an operation: when they commit, and the rows they leave. -/
namespace Ratatoskr.Operations

open Transaction

section Mint

variable (rows : Db) (operationId : OperationId) (ownerUserId : UserId) (kind correlationId : String)
  (idempotencyKey reporter : Option String) (acceptance : Option AiArchiveAcceptance) (now : Timestamp)

/-- The reporter is one the kind allows, the row passes its CHECKs and its keys are free. -/
structure Acceptable : Prop where
  allowed : reporter.all (allows kind) = true
  checks : (newRecord (newOperation ownerUserId kind correlationId idempotencyKey reporter now)).checks = true
  fresh : rows (.operation operationId) = none
  unused : ∀ key, idempotencyKey = some key → rows (.operationKey ownerUserId kind key) = none

def acceptedRows : Db :=
  let accepted := Function.update rows (.operation operationId)
    (some (newRecord (newOperation ownerUserId kind correlationId idempotencyKey reporter now)))
  match idempotencyKey with
  | some key => Function.update accepted (.operationKey ownerUserId kind key) (some operationId)
  | none => accepted

theorem exec_accept_done {β : Type} (operation : Operation) (later : Db) :
    exec schema (accept operationId ownerUserId kind correlationId idempotencyKey reporter now : Tx TableRow β _) rows =
        .done (.ok operation) later ↔
      Acceptable rows operationId ownerUserId kind correlationId idempotencyKey reporter now ∧
        operation = newOperation ownerUserId kind correlationId idempotencyKey reporter now ∧
        later = acceptedRows rows operationId ownerUserId kind correlationId idempotencyKey reporter now := by
  have disallowed : (reporter.any fun reporter => !allows kind reporter) = true ↔ ¬reporter.all (allows kind) = true := by
    cases reporter <;> simp
  have apart (key : String) : Table.operationKey ownerUserId kind key ≠ .operation operationId := fun same => by cases same
  have admitted (record : OperationRecord) : schema (.operation operationId) none record = record.checks := by
    simp [schema,OperationRecord.admits]
  by_cases allowed : reporter.all (allows kind) = true
  · simp only [accept,if_neg (mt disallowed.mp (not_not_intro allowed)),Tx.bind_eq,exec_bind_done,exec_insertNew_done,
      admitted]
    constructor
    · rintro ⟨_,middle,⟨checks,fresh,rfl⟩,ended⟩
      cases idempotencyKey with
      | none =>
        obtain ⟨same,rfl⟩ := Outcome.done.inj ended
        exact ⟨⟨allowed,checks,fresh,fun _ same => by cases same⟩,(Except.ok.inj same).symm,rfl⟩
      | some key =>
        obtain ⟨_,_,inserted,ended⟩ := (exec_bind_done _ _ _ _ _ _).mp ended
        obtain ⟨_,unused,rfl⟩ := (exec_insertNew_done _ _ _ _ _ _).mp inserted
        obtain ⟨same,rfl⟩ := Outcome.done.inj ended
        rw [Function.update_of_ne (apart key)] at unused
        exact ⟨⟨allowed,checks,fresh,fun _ own => Option.some.inj own ▸ unused⟩,(Except.ok.inj same).symm,rfl⟩
    · rintro ⟨acceptable,rfl,rfl⟩
      refine ⟨(),_,⟨acceptable.checks,acceptable.fresh,rfl⟩,?_⟩
      cases idempotencyKey with
      | none => rfl
      | some key =>
        refine (exec_bind_done _ _ _ _ _ _).mpr ⟨(),_,(exec_insertNew_done _ _ _ _ _ _).mpr ⟨rfl,?_,rfl⟩,rfl⟩
        rw [Function.update_of_ne (apart key)]
        exact acceptable.unused key rfl
  · simp only [accept,if_pos (disallowed.mpr allowed)]
    refine iff_of_false (fun ended => ?_) fun both => allowed both.1.allowed
    cases (Outcome.done.inj ended).1

/-- Apart from its key, the operation can be stored. -/
structure Presentable : Prop where
  allowed : reporter.all (allows kind) = true
  checks : (newRecord (newOperation ownerUserId kind correlationId idempotencyKey reporter now)).checks = true
  fresh : rows (.operation operationId) = none

/-- An operation that can be stored is refused at the unique index where its key has been used, and
accepted elsewhere. -/
theorem exec_accept_presentable {β : Type} (key : String)
    (presentable : Presentable rows operationId ownerUserId kind correlationId (some key) reporter now) :
    exec schema (accept operationId ownerUserId kind correlationId (some key) reporter now : Tx TableRow β _) rows =
      match rows (.operationKey ownerUserId kind key) with
      | some stored => .refused ⟨.operationKey ownerUserId kind key,some stored,operationId⟩
      | none => .done (.ok (newOperation ownerUserId kind correlationId (some key) reporter now))
          (acceptedRows rows operationId ownerUserId kind correlationId (some key) reporter now) := by
  obtain ⟨allowed,checks,fresh⟩ := presentable
  have listed : ¬(reporter.any fun reporter => !allows kind reporter) = true := by
    cases reporter <;> simp_all
  have apart : Table.operationKey ownerUserId kind key ≠ .operation operationId := fun same => by cases same
  have admitted : schema (.operation operationId) none
      (newRecord (newOperation ownerUserId kind correlationId (some key) reporter now)) = true := by
    simpa [schema,OperationRecord.admits] using checks
  simp only [accept,if_neg listed,Tx.bind_eq,exec_bind,exec_insertNew,if_pos admitted,fresh,Outcome.done_bind]
  have sees := Function.update_of_ne apart
    (some (newRecord (newOperation ownerUserId kind correlationId (some key) reporter now))) rows
  have keyed : schema (.operationKey ownerUserId kind key) none operationId = true := rfl
  simp only [if_pos keyed,sees]
  cases rows (.operationKey ownerUserId kind key) <;> rfl

/-- A refusal is one of the operation's row, or of its used key. -/
theorem exec_accept_refused {β : Type} (key : String) (refusal : Refusal TableRow)
    (ended : exec schema (accept operationId ownerUserId kind correlationId (some key) reporter now : Tx TableRow β _) rows =
      .refused refusal) :
    refusal.key = .operation operationId ∨
      Presentable rows operationId ownerUserId kind correlationId (some key) reporter now ∧
        (rows (.operationKey ownerUserId kind key)).isSome := by
  have disallowed : (reporter.any fun reporter => !allows kind reporter) = true ↔ ¬reporter.all (allows kind) = true := by
    cases reporter <;> simp
  by_cases presentable : Presentable rows operationId ownerUserId kind correlationId (some key) reporter now
  · refine Or.inr ⟨presentable,?_⟩
    rw [exec_accept_presentable rows operationId ownerUserId kind correlationId reporter now key presentable] at ended
    cases stored : rows (.operationKey ownerUserId kind key) with
    | none => simp [stored] at ended
    | some => rfl
  · by_cases allowed : reporter.all (allows kind) = true
    · simp only [accept,if_neg (mt disallowed.mp (not_not_intro allowed)),Tx.bind_eq,exec_bind,exec_insertNew] at ended
      split at ended
      · rename_i admitted
        split at ended
        · rename_i fresh
          exact absurd ⟨allowed,by simpa [schema,OperationRecord.admits] using admitted,fresh⟩ presentable
        · exact Or.inl (Outcome.refused.inj ended ▸ rfl)
      · exact Or.inl (Outcome.refused.inj ended ▸ rfl)
    · rw [accept,if_pos (disallowed.mpr allowed)] at ended
      cases ended

/-- Accepting an operation under a key writes its two rows, which were free, or answers an error. -/
theorem accept_keyed_safe {τ β α γ : Type} [DecidableEq τ] {P : Protocol TableRow β α τ} {t : τ}
    {post : γ → Drafts TableRow → Db → Prop} {drafts : Drafts TableRow} {s : Db} (key : String)
    {f : Except OperationError Operation → Tx TableRow β γ} (refuses : ∀ refusal, P.Refuses t refusal)
    (rejected : ∀ error, P.Safe schema t post (f (.error error)) drafts s)
    (accepted : ∀ s', P.Env drafts s s' →
      P.Safe schema t post (f (.ok (newOperation ownerUserId kind correlationId (some key) reporter now)))
        ((drafts.put (.operation operationId)
          (some (newRecord (newOperation ownerUserId kind correlationId (some key) reporter now)))).put
          (.operationKey ownerUserId kind key) (some operationId)) s') :
    P.Safe schema t post ((accept operationId ownerUserId kind correlationId (some key) reporter now).bind f) drafts s := by
  simp only [accept]
  split
  · exact rejected _
  · simp only [Tx.bind_eq,Tx.bind_assoc]
    refine Protocol.Safe.insertNew (fun _ => refuses _) fun s' env _ => ?_
    refine Protocol.Safe.insertNew (fun _ => refuses _) fun s'' later _ => ?_
    exact accepted s'' (env.trans P (later.weaken (put_isSome_of _ _ _)))

/-- The binding of an archive can be stored with its operation. -/
def Bindable : Prop := ∀ bound, acceptance = some bound →
  bound.checks = true ∧ rows (.archiveAcceptance operationId) = none

def mintedRows : Db :=
  let accepted := acceptedRows rows operationId ownerUserId kind correlationId idempotencyKey reporter now
  match acceptance with
  | some bound => Function.update accepted (.archiveAcceptance operationId) (some bound)
  | none => accepted

theorem mintedRows_own :
    mintedRows rows operationId ownerUserId kind correlationId idempotencyKey reporter acceptance now
        (.operation operationId) =
      some (newRecord (newOperation ownerUserId kind correlationId idempotencyKey reporter now)) ∧
    mintedRows rows operationId ownerUserId kind correlationId idempotencyKey reporter acceptance now
        (.archiveAcceptance operationId) =
      match acceptance with
      | some bound => some bound
      | none => rows (.archiveAcceptance operationId) := by
  cases acceptance <;> cases idempotencyKey <;>
    exact ⟨by simp [mintedRows,acceptedRows],by simp [mintedRows,acceptedRows]⟩

theorem mintedRows_other (other : OperationId) (different : other ≠ operationId) :
    mintedRows rows operationId ownerUserId kind correlationId idempotencyKey reporter acceptance now
        (.operation other) = rows (.operation other) ∧
    mintedRows rows operationId ownerUserId kind correlationId idempotencyKey reporter acceptance now
        (.archiveAcceptance other) = rows (.archiveAcceptance other) := by
  cases acceptance <;> cases idempotencyKey <;>
    exact ⟨by simp [mintedRows,acceptedRows,different],by simp [mintedRows,acceptedRows,different]⟩

/-- The unique index gains the key of the operation, if it has one. -/
theorem mintedRows_key (owner : UserId) (otherKind key : String) :
    (mintedRows rows operationId ownerUserId kind correlationId idempotencyKey reporter acceptance now
        (.operationKey owner otherKind key)).isSome ↔
      (rows (.operationKey owner otherKind key)).isSome ∨
        owner = ownerUserId ∧ otherKind = kind ∧ idempotencyKey = some key := by
  have accepted : mintedRows rows operationId ownerUserId kind correlationId idempotencyKey reporter acceptance now
      (.operationKey owner otherKind key) =
        acceptedRows rows operationId ownerUserId kind correlationId idempotencyKey reporter now
          (.operationKey owner otherKind key) := by
    cases acceptance <;> rfl
  rw [accepted]
  cases idempotencyKey with
  | none => simp [acceptedRows]
  | some used =>
    by_cases own : owner = ownerUserId ∧ otherKind = kind ∧ used = key
    · obtain ⟨rfl,rfl,rfl⟩ := own
      simp [acceptedRows]
    · have apart : Table.operationKey owner otherKind key ≠ .operationKey ownerUserId kind used := by
        rintro same
        obtain ⟨first,second,third⟩ := Table.operationKey.inj same
        exact own ⟨first,second,third.symm⟩
      simp [acceptedRows,Function.update_of_ne apart,own]

/-- A mint commits exactly when it may, and leaves these rows. -/
theorem exec_mint_done (later : Db) :
    exec schema (mint operationId ownerUserId kind correlationId idempotencyKey reporter acceptance now) rows =
        .done () later ↔
      (Acceptable rows operationId ownerUserId kind correlationId idempotencyKey reporter now ∧
        Bindable rows operationId acceptance) ∧
      later = mintedRows rows operationId ownerUserId kind correlationId idempotencyKey reporter acceptance now := by
  have apart : acceptedRows rows operationId ownerUserId kind correlationId idempotencyKey reporter now
      (.archiveAcceptance operationId) = rows (.archiveAcceptance operationId) := by
    cases idempotencyKey <;> rfl
  simp only [mint,Tx.bind_eq,exec_bind_done]
  constructor
  · rintro ⟨result,middle,accepted,ended⟩
    cases result with
    | error => cases ended
    | ok operation =>
      obtain ⟨acceptable,rfl,rfl⟩ := (exec_accept_done _ _ _ _ _ _ _ _ _ _).mp accepted
      cases acceptance with
      | none => exact ⟨⟨acceptable,fun _ same => by cases same⟩,(Outcome.done.inj ended).2.symm⟩
      | some bound =>
        obtain ⟨checks,free,rfl⟩ := (exec_insertNew_done _ _ _ _ _ _).mp ended
        rw [apart] at free
        exact ⟨⟨acceptable,fun _ own => Option.some.inj own ▸ ⟨checks,free⟩⟩,rfl⟩
  · rintro ⟨⟨acceptable,bindable⟩,rfl⟩
    refine ⟨_,_,(exec_accept_done _ _ _ _ _ _ _ _ _ _).mpr ⟨acceptable,rfl,rfl⟩,?_⟩
    cases acceptance with
    | none => rfl
    | some bound =>
      obtain ⟨checks,free⟩ := bindable bound rfl
      exact (exec_insertNew_done _ _ _ _ _ _).mpr ⟨checks,apart.trans free,rfl⟩

end Mint

end Ratatoskr.Operations
