import Ratatoskr.Archives.Effects

/-! The transfer sessions over any turns of requests and sweeps. A token names one session for ever, a session only ends,
and an operation has one session at a time. -/
namespace Ratatoskr.Archives

open Operations PublicApi

/-- The same session later: it may have ended. -/
structure Ages (row new : Transfer) : Prop where
  token : new.resumptionToken = row.resumptionToken
  operationId : new.operationId = row.operationId
  expiresAt : new.expiresAt = row.expiresAt
  sessionState : new.sessionState = row.sessionState ∨ row.sessionState = .open_
  declared : new = { row with sessionState := new.sessionState }

theorem Ages.refl (row : Transfer) : Ages row row := ⟨rfl,rfl,rfl,Or.inl rfl,rfl⟩

theorem ages_ended (token : Token) (state : SessionState) (row : Transfer) : Ages row (Tables.ended token state row) := by
  rcases Tables.ended_cases token state row with same | ⟨_,opened,same⟩
  · exact same.symm ▸ .refl row
  · exact ⟨Tables.ended_token ..,Tables.ended_operation ..,by rw [same],Or.inr opened,by rw [same]⟩

/-- A session that has ended or run out stays so. -/
theorem Ages.dead {row new : Transfer} (ages : Ages row new) {now later : Int} (onward : now ≤ later)
    (dead : row.sessionState = .failed ∨ row.sessionState = .open_ ∧ row.expiresAt ≤ now) :
    new.sessionState = .failed ∨ new.sessionState = .finalized ∨ new.sessionState = .open_ ∧ new.expiresAt ≤ later := by
  have expires := ages.expiresAt
  rcases dead with failed | ⟨opened,ended⟩
  · rcases ages.sessionState with same | other
    · exact Or.inl (same.trans failed)
    · rw [failed] at other
      cases other
  · cases state : new.sessionState with
    | failed => exact Or.inl rfl
    | finalized => exact Or.inr (Or.inl rfl)
    | open_ => exact Or.inr (Or.inr ⟨rfl,by omega⟩)

/-- The rows of a token that are gone, as they were when a reopen or a sweep deleted them. -/
def World.Gone (world : World) (token : Token) : Prop :=
  (∃ row ∈ world.reaped, row.resumptionToken = token) ∨ ∃ row ∈ world.replaced, row.resumptionToken = token

/-- How the other tasks may move the sessions and the operations. -/
structure Moved (before after : World) : Prop where
  clock : before.clock ≤ after.clock
  operations : Tables.OperationMoved before.tables.operations after.tables.operations
  minted : ∀ token ∈ before.minted, token ∈ after.minted
  kept : ∀ row ∈ before.tables.transfers, (∃ new ∈ after.tables.transfers, Ages row new) ∨ after.Gone row.resumptionToken
  came : ∀ new ∈ after.tables.transfers, (∃ row ∈ before.tables.transfers, Ages row new) ∨ new.resumptionToken ∉ before.minted
  gone : ∀ token, before.Gone token → after.Gone token

theorem Moved.acceptance {before after : World} (moved : Moved before after) (operationId : OperationId) :
    after.tables.acceptance operationId = before.tables.acceptance operationId :=
  moved.operations.others (.archiveAcceptance operationId) nofun

theorem Moved.refl (world : World) : Moved world world :=
  ⟨le_rfl,.refl _,fun _ => id,fun row stored => Or.inl ⟨row,stored,.refl row⟩,
    fun row stored => Or.inl ⟨row,stored,.refl row⟩,fun _ => id⟩

/-- What is true of the sessions. -/
structure Sessions (world : World) : Prop where
  tokens : (world.tables.transfers.map (·.resumptionToken)).Nodup
  operations : (world.tables.transfers.map (·.operationId)).Nodup
  minted : ∀ row ∈ world.tables.transfers, row.resumptionToken ∈ world.minted

theorem isLive_false_iff (now : Int) (row : Transfer) :
    Tables.isLive now row = false ↔ row.sessionState = .failed ∨ row.sessionState = .open_ ∧ row.expiresAt ≤ now := by
  cases state : row.sessionState <;> simp [Tables.isLive,state]

/-- A row that was dead is dead later. -/
theorem isLive_later {now later : Int} (onward : now ≤ later) (row : Transfer) (dead : Tables.isLive now row = false) :
    Tables.isLive later row = false := by
  rw [isLive_false_iff] at dead ⊢
  exact dead.imp_right fun ended => ⟨ended.1,ended.2.trans onward⟩

section Moving

variable {world later : World}

/-- Nothing of this concerns the staging root or what was recorded and forwarded. -/
theorem moved_of_same (clock : world.clock ≤ later.clock) (tables : later.tables.transfers = world.tables.transfers)
    (operations : Tables.OperationMoved world.tables.operations later.tables.operations)
    (minted : ∀ token ∈ world.minted, token ∈ later.minted) (replaced : later.replaced = world.replaced)
    (reaped : later.reaped = world.reaped) : Moved world later :=
  ⟨clock,operations,minted,fun row stored => Or.inl ⟨row,tables ▸ stored,.refl row⟩,
    fun row stored => Or.inl ⟨row,tables ▸ stored,.refl row⟩,fun token gone => by rwa [World.Gone,replaced,reaped]⟩

theorem sessions_of_same (sessions : Sessions world) (tables : later.tables.transfers = world.tables.transfers)
    (minted : ∀ token ∈ world.minted, token ∈ later.minted) : Sessions later :=
  ⟨tables ▸ sessions.tokens,tables ▸ sessions.operations,fun row stored => minted _ (sessions.minted row (tables ▸ stored))⟩

/-- Ending a session -/
theorem sessions_ended (sessions : Sessions world) (token : Token) (state : SessionState) :
    Sessions { world with tables := world.tables.endTransfer token state } ∧
      Moved world { world with tables := world.tables.endTransfer token state } := by
  have rows : (world.tables.endTransfer token state).transfers = world.tables.transfers.map (Tables.ended token state) := rfl
  refine ⟨⟨?_,?_,fun row stored => ?_⟩,⟨le_rfl,.refl _,fun _ => id,fun row stored => ?_,fun new stored => ?_,fun _ => id⟩⟩
  · rw [rows,List.map_map]
    exact (List.map_congr_left fun row _ => Tables.ended_token token state row) ▸ sessions.tokens
  · rw [rows,List.map_map]
    exact (List.map_congr_left fun row _ => Tables.ended_operation token state row) ▸ sessions.operations
  · obtain ⟨old,there,rfl⟩ := Tables.mem_endTransfer.mp stored
    rw [Tables.ended_token]
    exact sessions.minted old there
  · exact Or.inl ⟨_,Tables.mem_endTransfer.mpr ⟨row,stored,rfl⟩,ages_ended token state row⟩
  · obtain ⟨old,there,rfl⟩ := Tables.mem_endTransfer.mp stored
    exact Or.inl ⟨old,there,ages_ended token state old⟩

/-- Inserting one -/
theorem sessions_inserted (sessions : Sessions world) (row : Transfer) (tables : Tables) (fresh : row.resumptionToken ∉ world.minted)
    (made : Tables.Inserted world.tables row tables) :
    Sessions { world with minted := row.resumptionToken :: world.minted, tables := tables } ∧
      Moved world { world with minted := row.resumptionToken :: world.minted, tables := tables } := by
  have rows := made.transfers
  have operations : Tables.OperationMoved world.tables.operations tables.operations := made.operations ▸ .refl _
  refine ⟨⟨?_,?_,fun other stored => ?_⟩,⟨le_rfl,operations,fun _ => List.mem_cons_of_mem _,fun other stored => ?_,
    fun new stored => ?_,fun _ => id⟩⟩
  · rw [show ({ world with minted := row.resumptionToken :: world.minted, tables := tables } : World).tables.transfers =
      world.tables.transfers ++ [row] from rows,List.map_append,List.nodup_append]
    refine ⟨sessions.tokens,List.nodup_singleton _,fun token member other last equal => ?_⟩
    obtain ⟨known,stored,rfl⟩ := List.mem_map.mp member
    exact (made.apart known stored).1 (equal.trans (List.mem_singleton.mp last))
  · rw [show ({ world with minted := row.resumptionToken :: world.minted, tables := tables } : World).tables.transfers =
      world.tables.transfers ++ [row] from rows,List.map_append,List.nodup_append]
    refine ⟨sessions.operations,List.nodup_singleton _,fun operationId member other last equal => ?_⟩
    obtain ⟨known,stored,rfl⟩ := List.mem_map.mp member
    exact (made.apart known stored).2 (equal.trans (List.mem_singleton.mp last))
  · rcases List.mem_append.mp (rows ▸ stored) with known | last
    · exact List.mem_cons_of_mem _ (sessions.minted other known)
    · exact List.mem_singleton.mp last ▸ List.mem_cons_self
  · exact Or.inl ⟨other,rows ▸ List.mem_append_left _ stored,.refl other⟩
  · rcases List.mem_append.mp (rows ▸ stored) with known | last
    · exact Or.inl ⟨new,known,.refl new⟩
    · exact Or.inr (List.mem_singleton.mp last ▸ fresh)

/-- Deleting some, which are kept in the history -/
theorem sessions_deleted (sessions : Sessions world) (goes : Transfer → Bool)
    (tables : later.tables = world.tables.deleteTransfers goes) (clock : later.clock = world.clock)
    (minted : later.minted = world.minted)
    (told : ∀ row ∈ world.tables.transfers, goes row = true → later.Gone row.resumptionToken)
    (gone : ∀ token, world.Gone token → later.Gone token) : Sessions later ∧ Moved world later := by
  have rows : later.tables.transfers = world.tables.transfers.filter fun row => !goes row := by
    rw [tables]
    rfl
  have sub : later.tables.transfers.Sublist world.tables.transfers := rows ▸ List.filter_sublist
  have operations : Tables.OperationMoved world.tables.operations later.tables.operations := by
    rw [tables]
    exact .refl _
  refine ⟨⟨sessions.tokens.sublist (sub.map _),sessions.operations.sublist (sub.map _),fun row stored => ?_⟩,
    ⟨clock.ge,operations,fun _ => by rw [minted]; exact id,fun row stored => ?_,fun new stored => ?_,gone⟩⟩
  · rw [minted]
    exact sessions.minted row (sub.subset stored)
  · cases goes_ : goes row with
    | true => exact Or.inr (told row stored goes_)
    | false =>
      refine Or.inl ⟨row,?_,.refl row⟩
      rw [rows]
      exact List.mem_filter.mpr ⟨stored,by rw [goes_]; rfl⟩
  · exact Or.inl ⟨new,sub.subset stored,.refl new⟩

end Moving

section Effects

variable {library : Library} {number : Nat} {task : Task} {world later : World}

/-- What a task does to the sessions -/
theorem sessions_effect (sessions : Sessions world) (effect : Effect library number task world later) :
    Sessions later ∧ Moved world later := by
  have staged (staging : Staging) : Sessions { world with staging := staging } ∧ Moved world { world with staging := staging } :=
    ⟨sessions_of_same sessions rfl fun _ => id,moved_of_same le_rfl rfl (.refl _) (fun _ => id) rfl rfl⟩
  cases effect with
  | nothing => exact ⟨sessions,.refl world⟩
  | minted token =>
    exact ⟨sessions_of_same sessions rfl fun _ => List.mem_cons_of_mem _,
      moved_of_same le_rfl rfl (.refl _) (fun _ => List.mem_cons_of_mem _) rfl rfl⟩
  | inserted call request expectedChunks now token tables own fresh made =>
    exact sessions_inserted sessions (call.row request expectedChunks now token) tables fresh (Tables.insertTransfer_eq_some made)
  | replaced call request expectedChunks now old own =>
    refine sessions_deleted sessions (·.operationId == call.operationId) rfl rfl rfl (fun row stored goes => ?_) (fun gone there => ?_)
    · exact Or.inr ⟨row,List.mem_append_left _ (List.mem_filter.mpr ⟨stored,goes⟩),rfl⟩
    · exact there.imp_right fun ⟨row,known,same⟩ => ⟨row,List.mem_append_right _ known,same⟩
  | reaped sweep token reason rest report own =>
    refine sessions_deleted sessions (·.resumptionToken == token) rfl rfl rfl (fun row stored goes => ?_) (fun gone there => ?_)
    · exact Or.inl ⟨row,List.mem_append_left _ (List.mem_filter.mpr ⟨stored,goes⟩),rfl⟩
    · exact there.imp_left fun ⟨row,old,same⟩ => ⟨row,List.mem_append_right _ old,same⟩
  | recorded call binding tables own made =>
    have recorded := Tables.insertChunk_eq_some made
    have operations : Tables.OperationMoved world.tables.operations tables.operations := recorded.operations ▸ .refl _
    exact ⟨sessions_of_same sessions recorded.transfers fun _ => id,
      moved_of_same le_rfl recorded.transfers operations (fun _ => id) rfl rfl⟩
  | finalized call binding own => exact sessions_ended sessions binding.token .finalized
  | failed token own => exact sessions_ended sessions token .failed
  | deliveryFailed call binding status own =>
    have rows : (world.tables.failDelivery call.operationId world.clock).transfers = world.tables.transfers := by
      rcases Tables.failDelivery_cases world.tables call.operationId world.clock with same | ⟨_,_,_,_,_,same⟩ <;> rw [same]
    exact ⟨sessions_of_same sessions rows fun _ => id,
      moved_of_same le_rfl rows (Tables.failDelivery_moved call.operationId world.clock) (fun _ => id) rfl rfl⟩
  | entered | cleared | thinned | created | wrote | renamed | unlinked => exact staged _
  | forwarded | responded =>
    exact ⟨sessions_of_same sessions rfl fun _ => id,moved_of_same le_rfl rfl (.refl _) (fun _ => id) rfl rfl⟩

theorem sessions_outside (sessions : Sessions world) (move : Outside) (moved : world.outside move = some later) :
    Sessions later ∧ Moved world later := by
  cases move with
  | tick clock =>
    simp only [World.outside] at moved
    split at moved
    · rename_i onward
      cases moved
      exact ⟨sessions_of_same sessions rfl fun _ => id,moved_of_same onward rfl (.refl _) (fun _ => id) rfl rfl⟩
    · cases moved
  | report operationId status stage percent message =>
    cases moved
    have rows : (world.tables.recordStatus operationId status stage percent message world.clock).transfers = world.tables.transfers := by
      rcases Tables.recordStatus_cases world.tables operationId status stage percent message world.clock with
        same | ⟨_,_,_,_,_,_,same⟩ <;> rw [same]
    exact ⟨sessions_of_same sessions rows fun _ => id,
      moved_of_same le_rfl rows (Tables.recordStatus_moved operationId status stage percent message world.clock) (fun _ => id) rfl rfl⟩

theorem eq_of_token (sessions : Sessions world) {a b : Transfer} (first : a ∈ world.tables.transfers)
    (second : b ∈ world.tables.transfers) (same : a.resumptionToken = b.resumptionToken) : a = b :=
  List.inj_on_of_nodup_map sessions.tokens first second same

end Effects

end Ratatoskr.Archives
