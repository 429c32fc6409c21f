import Ratatoskr.Identity.PairingCodes

/-! The attempt budget of a pairing code over sequences of pairing requests. A mismatch is counted inside
the transaction of the request it refuses, and goes with it. -/
set_option linter.unusedSectionVars false

namespace Ratatoskr.Identity

open Transaction

section Attempts

variable (settings : Settings)

/-- The committed rows after one request to the pairing route -/
def Pairing.serve (rows : Rows) (request : Pairing) : Rows :=
  (exec constraints (request.pair settings) rows).publish rows

/-- The live code that a request presents with a kind other than the pinned one. -/
def Pairing.mismatched (rows : Rows) (request : Pairing) : Option PairingCodeId :=
  match request.parse with
  | .error _ => none
  | .ok (body,kind) =>
    match rows (.codeHash (settings.digestOf body.code)) with
    | none => none
    | some pairingCodeId =>
      match rows (.pairingCode pairingCodeId) with
      | none => none
      | some row =>
        if row.redeemable (settings.digestOf body.code) request.now && row.expectedKind.any (· != kind) then
          some pairingCodeId
        else none

/-- How often the requests of a sequence mismatch the code. -/
def mismatches (pairingCodeId : PairingCodeId) : Rows → List Pairing → Nat
  | _,[] => 0
  | rows,request :: requests =>
    (if request.mismatched settings rows = some pairingCodeId then 1 else 0) +
      mismatches pairingCodeId (request.serve settings rows) requests

def serveAll (rows : Rows) (requests : List Pairing) : Rows := requests.foldl (Pairing.serve settings) rows

/-- A mismatch costs the code one attempt for good, and nothing else does. -/
def Counted (rows : Rows) (request : Pairing) : Prop :=
  ∀ pairingCodeId row, rows (.pairingCode pairingCodeId) = some row →
    ∃ now, request.serve settings rows (.pairingCode pairingCodeId) = some now ∧
      now.failedAttempts = row.failedAttempts + if request.mismatched settings rows = some pairingCodeId then 1 else 0

def served (rows : Rows) (request : Pairing) : Option Rows := some (request.serve settings rows)

/-- Every mismatch of the sequence is counted, and a code whose budget is used up pairs nothing any more. -/
structure BudgetKept (rows : Rows) (requests : List Pairing) : Prop where
  counted : StateMachine.Along (served settings) (Counted settings) rows requests
  exhausted : ∀ before request after, requests = before ++ request :: after → ∀ pairingCodeId row,
    rows (.pairingCode pairingCodeId) = some row → 5 ≤ row.failedAttempts + mismatches settings pairingCodeId rows before →
    ∀ deviceId sessionId later, exec constraints (request.pair settings) (serveAll settings rows before) ≠
      .done (.paired pairingCodeId deviceId sessionId) later

/-- Every request that presents a live code with a pinned kind declares that kind. -/
def NoMismatch (rows : Rows) (requests : List Pairing) : Prop :=
  StateMachine.Along (served settings) (fun rows request => request.mismatched settings rows = none) rows requests

variable {settings} {rows : Rows}

variable (settings) in
/-- One request keeps the rows consistent and moves the codes on, which keeps what was counted. -/
theorem serve_later (valid : Consistent (tables rows)) (request : Pairing) :
    Consistent (tables (request.serve settings rows)) ∧ Later (tables rows) (tables (request.serve settings rows)) := by
  have alone := Protocol.Safe.alone (P := credentialProtocol (τ := Unit)) (t := ()) valid
    (pair_safe (s := rows) settings request)
  rw [Pairing.serve]
  cases ended : exec constraints (request.pair settings) rows with
  | done value later =>
    simp only [overlay_none,ended] at alone
    obtain ⟨drafts,rfl,committed⟩ := alone
    exact ⟨(Committed.advance committed).consistent,(Committed.advance committed).later⟩
  | abandoned | refused => exact ⟨valid,Later.refl _⟩

variable (settings) in
theorem serve_all_later (valid : Consistent (tables rows)) (requests : List Pairing) :
    Consistent (tables (serveAll settings rows requests)) ∧ Later (tables rows) (tables (serveAll settings rows requests)) := by
  induction requests generalizing rows with
  | nil => exact ⟨valid,Later.refl _⟩
  | cons request requests ih =>
    obtain ⟨valid,first⟩ := serve_later settings valid request
    obtain ⟨last,rest⟩ := ih valid
    exact ⟨last,first.trans rest⟩

theorem selected_redeemable (rows middle : Rows) (presented : Digest) (now : Timestamp) (pairingCodeId : PairingCodeId)
    (row : PairingCode) {code : PairingCode}
    (selected : exec constraints (selectCode presented now) rows = .done (some (pairingCodeId,code)) middle)
    (stored : rows (.pairingCode pairingCodeId) = some row) : row.redeemable presented now = true := by
  simp only [selectCode,Tx.bind_eq,exec_bind,exec_select,Outcome.done_bind] at selected
  cases found : rows (.codeHash presented) with
  | none => simp [found] at selected
  | some other =>
    simp only [found,exec_bind,exec_selectForUpdate,Outcome.done_bind,Tx.pure_eq,exec_done,Outcome.done.injEq,
      Option.map_eq_some_iff,Prod.mk.injEq] at selected
    obtain ⟨⟨_,there,rfl,_⟩,_⟩ := selected
    rw [stored,Option.filter_eq_some_iff] at there
    obtain ⟨same,redeemable⟩ := there
    obtain rfl := Option.some.inj same
    exact redeemable

/-- A code at its fifth attempt is found by no redemption. -/
theorem exhausted_pairs_nothing (request : Pairing) (pairingCodeId : PairingCodeId) (row : PairingCode)
    (stored : rows (.pairingCode pairingCodeId) = some row) (exhausted : 5 ≤ row.failedAttempts) (deviceId : DeviceId)
    (sessionId : SessionId) (later : Rows) :
    exec constraints (request.pair settings) rows ≠ .done (.paired pairingCodeId deviceId sessionId) later := by
  intro ended
  rw [Pairing.pair] at ended
  split at ended
  · cases ended
  rename_i body kind _
  obtain ⟨rest,same,answers⟩ := redeem_returns (request.request settings body kind)
  simp only [Tx.bind_eq,same,Tx.bind_assoc] at ended
  obtain ⟨found,middle,selected,ended⟩ := (exec_bind_done _ _ _ _ _ _).mp ended
  obtain ⟨outcome,_,answered,concluded⟩ := (exec_bind_done _ _ _ _ _ _).mp ended
  cases outcome with
  | none => cases concluded
  | some redeemed =>
    have names := exec_returns _ _ _ (answers found) _ _ answered redeemed rfl
    obtain ⟨⟨code,rfl⟩,_,_⟩ := names
    obtain ⟨_,_,_,concluded⟩ := (exec_bind_done _ _ _ _ _ _).mp concluded
    simp only [Tx.pure_eq,exec_done,Outcome.done.injEq,Granted.paired.injEq] at concluded
    obtain ⟨⟨rfl,_,_⟩,_⟩ := concluded
    have redeemable := selected_redeemable _ _ _ _ _ _ selected stored
    simp only [PairingCode.redeemable,Bool.and_eq_true,decide_eq_true_eq] at redeemable
    omega

/-- The code that a request mismatches is stored. -/
theorem mismatched_stored (request : Pairing) (pairingCodeId : PairingCodeId)
    (mismatched : request.mismatched settings rows = some pairingCodeId) :
    ∃ row, rows (.pairingCode pairingCodeId) = some row := by
  rw [Pairing.mismatched] at mismatched
  split at mismatched
  · cases mismatched
  split at mismatched
  · cases mismatched
  split at mismatched
  · cases mismatched
  rename_i row stored
  simp only [Option.ite_none_right_eq_some,Option.some.injEq] at mismatched
  exact ⟨row,mismatched.2 ▸ stored⟩

/-- What a request counts is lost with its transaction, so only a request with nothing to count counts right. -/
theorem counted_iff (valid : Consistent (tables rows)) (request : Pairing) :
    Counted settings rows request ↔ request.mismatched settings rows = none := by
  have kept (pairingCodeId : PairingCodeId) (row : PairingCode) (stored : rows (.pairingCode pairingCodeId) = some row) :
      ∃ now, request.serve settings rows (.pairingCode pairingCodeId) = some now ∧
        now.failedAttempts = row.failedAttempts := by
    obtain ⟨now,there,moves⟩ := (serve_later settings valid request).2.code pairingCodeId row stored
    exact ⟨now,there,moves.attempts⟩
  constructor
  · intro counted
    by_contra some_
    obtain ⟨pairingCodeId,mismatched⟩ := Option.ne_none_iff_exists'.mp some_
    obtain ⟨row,stored⟩ := mismatched_stored request pairingCodeId mismatched
    obtain ⟨now,there,count⟩ := counted pairingCodeId row stored
    obtain ⟨same,there',unchanged⟩ := kept pairingCodeId row stored
    obtain rfl := Option.some.inj (there.symm.trans there')
    rw [if_pos mismatched] at count
    omega
  · intro none_ pairingCodeId row stored
    obtain ⟨now,there,unchanged⟩ := kept pairingCodeId row stored
    exact ⟨now,there,by simp [none_,unchanged]⟩

theorem no_mismatches (before after : List Pairing) (pairingCodeId : PairingCodeId)
    (none_ : NoMismatch settings rows (before ++ after)) : mismatches settings pairingCodeId rows before = 0 := by
  induction before generalizing rows with
  | nil => rfl
  | cons request before ih =>
    rw [mismatches,none_.1,ih (none_.2 _ rfl)]
    simp

/-- The attempt budget holds over a sequence of requests exactly when there is nothing to count. -/
theorem budget_kept_iff (rows : Rows) (valid : Consistent (tables rows)) (requests : List Pairing) :
    BudgetKept settings rows requests ↔ NoMismatch settings rows requests := by
  have along : StateMachine.Along (served settings) (Counted settings) rows requests ↔ NoMismatch settings rows requests := by
    refine StateMachine.along_iff_along _ (fun rows => Consistent (tables rows)) _ _
      (fun rows request valid => counted_iff valid request) (fun rows request next valid _ stepped => ?_) rows requests valid
    obtain rfl := Option.some.inj stepped
    exact (serve_later settings valid request).1
  refine ⟨fun kept => along.mp kept.counted,fun none_ => ⟨along.mpr none_,?_⟩⟩
  rintro before request after rfl pairingCodeId row stored exhausted deviceId sessionId later
  rw [no_mismatches before _ pairingCodeId none_] at exhausted
  obtain ⟨now,there,moves⟩ := (serve_all_later settings valid before).2.code pairingCodeId row stored
  exact exhausted_pairs_nothing request pairingCodeId now there (by rw [moves.attempts]; exact exhausted) _ _ _

end Attempts

section Sample

/-- A code for a phone is presented five times by something else, and then by a phone. -/
def guesses : List Pairing := List.replicate 5 (pairAt 1000000 "browser_extension")

def codeRows : Rows := (exec constraints (createCodeAt 0).createPairingCode fun _ => none).publish fun _ => none

theorem code_rows_consistent : Consistent (tables codeRows) := by
  have alone := Protocol.Safe.alone (P := credentialProtocol (τ := Unit)) (t := ()) (s := fun _ => none) consistent_empty
    (createCode_safe (createCodeAt 0))
  rw [codeRows]
  cases ended : exec constraints (createCodeAt 0).createPairingCode fun _ => none with
  | done value later =>
    simp only [overlay_none,ended] at alone
    obtain ⟨drafts,rfl,committed⟩ := alone
    exact (Committed.advance committed).consistent
  | abandoned | refused => exact consistent_empty

theorem budget_kept_of_phone : BudgetKept sampleSettings codeRows [pairAt 1000000 "mobile"] :=
  (budget_kept_iff codeRows code_rows_consistent _).mpr ⟨by decide +kernel,fun _ _ => trivial⟩

def fiveMismatches : Bool :=
  (codeRows (.pairingCode 1)).any (·.failedAttempts == 0) && mismatches sampleSettings 1 codeRows guesses == 5

def Outcome.commits (outcome : Outcome IdentityRow Denial Granted) (value : Granted) : Bool :=
  match outcome with
  | .done answer _ => answer == value
  | _ => false

/-- The budget of five is used up, and the sixth presentation pairs a device. -/
theorem sixth_presentation_pairs :
    (∃ row, codeRows (.pairingCode 1) = some row ∧ row.failedAttempts = 0) ∧
    mismatches sampleSettings 1 codeRows guesses = 5 ∧
    (∃ later, exec constraints ((pairAt 2000000 "mobile").pair sampleSettings) (serveAll sampleSettings codeRows guesses) =
      .done (.paired 1 1 1) later) ∧
    ¬BudgetKept sampleSettings codeRows (guesses ++ [pairAt 2000000 "mobile"]) := by
  have five : fiveMismatches = true := by decide +kernel
  have pairs : Outcome.commits (exec constraints ((pairAt 2000000 "mobile").pair sampleSettings)
    (serveAll sampleSettings codeRows guesses)) (.paired 1 1 1) = true := by decide +kernel
  simp only [fiveMismatches,Bool.and_eq_true,Option.any_eq_true,beq_iff_eq] at five
  obtain ⟨⟨row,stored,fresh⟩,five⟩ := five
  obtain ⟨later,ended⟩ : ∃ later, exec constraints ((pairAt 2000000 "mobile").pair sampleSettings)
      (serveAll sampleSettings codeRows guesses) = .done (.paired 1 1 1) later := by
    cases ended : exec constraints ((pairAt 2000000 "mobile").pair sampleSettings)
        (serveAll sampleSettings codeRows guesses) with
    | done value later =>
      rw [ended] at pairs
      exact ⟨later,congrArg (Outcome.done · later) (eq_of_beq pairs)⟩
    | abandoned | refused =>
      rw [ended] at pairs
      cases pairs
  refine ⟨⟨row,stored,fresh⟩,five,⟨later,ended⟩,fun kept => ?_⟩
  exact kept.exhausted guesses _ [] rfl 1 row stored (by omega) 1 1 later ended

end Sample

end Ratatoskr.Identity
