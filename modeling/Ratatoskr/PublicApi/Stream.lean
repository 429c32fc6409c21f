import Ratatoskr.Lib.Keyset
import Ratatoskr.Operations.Interleaving

/-! The progress stream of one operation, polled while its writers go on. -/
namespace Ratatoskr.PublicApi

open Operations Transaction

/-- A progress entry under its id -/
structure Frame where
  progressId : Nat
  entry : ProgressEntry
deriving DecidableEq

section Reading

-- `drawn n` is the id that the operation's entry number `n` was given.
variable (drawn : Nat → Nat)

/-- The entries of an operation in the order of their ids. -/
def frames (record : OperationRecord) : List Frame := record.progress.zipIdx.map fun (entry,n) => ⟨drawn n,entry⟩

def history (operationId : OperationId) (rows : Db) : List Frame :=
  match rows (.operation operationId) with
  | some record => frames drawn record
  | none => []

def progressSince (operationId : OperationId) (cursor : Option Nat) (limit : Nat) (rows : Db) : List Frame :=
  (Keyset.after Frame.progressId cursor (history drawn operationId rows)).take limit

end Reading

inductive Connection where
  | following | ended | broken
deriving DecidableEq

structure ProgressStream where
  cursor : Option Nat
  sent : List Frame
  connection : Connection

/-- The most entries one poll will read. -/
def page : Nat := 256

/-- What the loop carries from one entry of a poll to the next. -/
structure Turn where
  cursor : Option Nat
  terminal : Bool
  sent : List Frame

def Turn.yield (turn : Turn) (frame : Frame) : Turn where
  cursor := some frame.progressId
  terminal := isTerminal frame.entry.status
  sent := turn.sent ++ [frame]

/-- One turn of the loop, with the entries it read. -/
def ProgressStream.follow (stream : ProgressStream) (entries : List Frame) : ProgressStream :=
  let turn := entries.foldl Turn.yield ⟨stream.cursor,false,stream.sent⟩
  ⟨turn.cursor,turn.sent,if turn.terminal then .ended else .following⟩

def progressStream (cursor : Option Nat) : ProgressStream := ⟨cursor,[],.following⟩

/-- A stream beside the writers of the operations -/
structure Watch (τ : Type) where
  pool : Pool TableRow Unit Unit τ
  stream : ProgressStream

inductive WatchAction (τ : Type) where
  | write (action : Transaction.Action τ)
  | poll
  | unreadable

section Run

variable {τ : Type} [DecidableEq τ] (drawn : Nat → Nat) (writer : τ → Writer) (operationId : OperationId)

def Watch.rows (watch : Watch τ) : Db := watch.pool.committed

/-- A poll reads what is committed; a read that fails breaks the stream off. -/
def Watch.step (watch : Watch τ) : WatchAction τ → Option (Watch τ)
  | .write action =>
    (watch.pool.step schema (fun t => (writer t).program) action).map fun pool => { watch with pool := pool }
  | .poll =>
    if watch.stream.connection = .following then
      some { watch with
        stream := watch.stream.follow (progressSince drawn operationId watch.stream.cursor page watch.rows) }
    else none
  | .unreadable =>
    if watch.stream.connection = .following then
      some { watch with stream := { watch.stream with connection := .broken } }
    else none

end Run

section Follow

theorem foldl_yield (turn : Turn) (entries : List Frame) : entries.foldl Turn.yield turn =
    ⟨(entries.getLast?.map Frame.progressId).or turn.cursor,
      (entries.getLast?.map fun frame => isTerminal frame.entry.status).getD turn.terminal,turn.sent ++ entries⟩ := by
  induction entries generalizing turn with
  | nil => simp
  | cons frame entries ih =>
    rw [List.foldl_cons,ih]
    cases ends : entries.getLast? with
    | none =>
      obtain rfl := List.getLast?_eq_none_iff.mp ends
      simp [Turn.yield]
    | some last => simp [Turn.yield,List.getLast?_cons,ends]

theorem follow_nil (stream : ProgressStream) : stream.follow [] = { stream with connection := .following } := rfl

theorem follow_last (stream : ProgressStream) (entries : List Frame) (last : Frame) (ends : entries.getLast? = some last) :
    stream.follow entries = ⟨some last.progressId,stream.sent ++ entries,
      if isTerminal last.entry.status then .ended else .following⟩ := by
  simp [ProgressStream.follow,foldl_yield,ends]

end Follow

section Feed

variable {drawn : Nat → Nat} {record new : OperationRecord}

theorem frames_ascending (increasing : StrictMono drawn) (record : OperationRecord) :
    Keyset.Ascending Frame.progressId (frames drawn record) := by
  refine List.pairwise_iff_getElem.mpr fun i j _ _ before => ?_
  simpa [frames] using increasing before

theorem frames_prefix (history : record.progress <+: new.progress) : frames drawn record <+: frames drawn new := by
  obtain ⟨more,same⟩ := history
  rw [frames,frames,← same,List.zipIdx_append,List.map_append]
  exact List.prefix_append _ _

/-- A history is short, since the rank of the status rises with every entry of it. -/
theorem progress_short (consistent : Consistent record) : record.progress.length ≤ 4 := by
  have distinct : (record.progress.map fun entry => rank entry.status).Nodup :=
    consistent.ranks.imp fun below => Nat.ne_of_lt below
  have within : (record.progress.map fun entry => rank entry.status) ⊆ List.range 4 := by
    intro value member
    obtain ⟨entry,_,rfl⟩ := List.mem_map.mp member
    have bound := rank_le_terminal entry.status
    rw [terminalRank] at bound
    exact List.mem_range.mpr (by omega)
  simpa using (List.subperm_of_subset distinct within).length_le

/-- Only the last entry of a history is terminal. -/
theorem terminal_last (consistent : Consistent record) {frame : Frame} (member : frame ∈ frames drawn record)
    (ends : isTerminal frame.entry.status = true) : (frames drawn record).getLast? = some frame := by
  obtain ⟨before,rest,split⟩ := List.append_of_mem member
  cases rest with
  | nil => simp [split]
  | cons next rest =>
    have ranks : (frames drawn record).Pairwise fun a b => rank a.entry.status < rank b.entry.status := by
      have ranks := consistent.ranks
      rw [List.pairwise_map] at ranks
      rw [frames,List.pairwise_map]
      refine List.pairwise_iff_getElem.mpr fun i j inside inside' above => ?_
      simpa using List.pairwise_iff_getElem.mp ranks i j (by simpa using inside) (by simpa using inside') above
    rw [split,List.pairwise_append] at ranks
    have above := (List.pairwise_cons.mp ranks.2.1).1 next List.mem_cons_self
    have top := (is_terminal_iff _).mp ends
    have bound := rank_le_terminal next.entry.status
    omega

end Feed

section Invariant

variable {τ : Type} [DecidableEq τ] {drawn : Nat → Nat} {writer : τ → Writer} {operationId : OperationId} {cursor : Option Nat}

/-- What the history of an operation is at any moment -/
structure Feed (entries : List Frame) : Prop where
  ascending : Keyset.Ascending Frame.progressId entries
  short : entries.length ≤ page
  last : ∀ frame ∈ entries, isTerminal frame.entry.status = true → entries.getLast? = some frame

theorem history_feed (increasing : StrictMono drawn) {rows : Db} (valid : Valid rows) :
    Feed (history drawn operationId rows) := by
  rw [history]
  split
  · rename_i record stored
    have consistent := valid operationId record stored
    refine ⟨frames_ascending increasing record,?_,fun frame member ends => terminal_last consistent member ends⟩
    have short := progress_short consistent
    simp only [frames,List.length_map,List.length_zipIdx,page]
    omega
  · exact ⟨List.Pairwise.nil,Nat.zero_le _,fun _ member => by cases member⟩

theorem history_prefix {rows later : Db} (grows : Grows rows later) :
    history drawn operationId rows <+: history drawn operationId later := by
  simp only [history]
  cases stored : rows (.operation operationId) with
  | none => exact List.nil_prefix
  | some record =>
    obtain ⟨new,there,extends_⟩ := grows operationId record stored
    rw [there]
    exact frames_prefix extends_.history

/-- What was sent and what is left after the cursor make up what was asked for. -/
structure Balanced (cursor : Option Nat) (entries : List Frame) (stream : ProgressStream) : Prop where
  balance : stream.sent ++ Keyset.after Frame.progressId stream.cursor entries = Keyset.after Frame.progressId cursor entries
  position : stream.cursor = cursor ∨ ∃ frame ∈ entries, stream.cursor = some frame.progressId ∧
    cursor.all (· < frame.progressId) = true
  following : stream.connection = .following → ∀ frame ∈ stream.sent, isTerminal frame.entry.status = false
  ended : stream.connection = .ended → ∃ last, stream.sent.getLast? = some last ∧ isTerminal last.entry.status = true

theorem Balanced.grow {entries more : List Frame} {stream : ProgressStream} (balanced : Balanced cursor entries stream)
    (feed : Feed (entries ++ more)) : Balanced cursor (entries ++ more) stream where
  balance := by
    have same : Keyset.after Frame.progressId stream.cursor more = Keyset.after Frame.progressId cursor more := by
      rcases balanced.position with same | ⟨frame,member,position,onward⟩
      · rw [same]
      · have across := (List.pairwise_append.mp feed.ascending).2.2 frame member
        rw [position,Keyset.after_eq_self fun row there => by simpa using across row there]
        refine (Keyset.after_eq_self fun row there => ?_).symm
        cases cursor with
        | none => rfl
        | some cursor =>
          simp only [Option.all_some,decide_eq_true_eq] at onward ⊢
          exact onward.trans (across row there)
    rw [Keyset.after_append,Keyset.after_append,← List.append_assoc,balanced.balance,same]
  position := balanced.position.imp_right fun ⟨frame,member,rest⟩ => ⟨frame,List.mem_append_left _ member,rest⟩
  following := balanced.following
  ended := balanced.ended

/-- Where the last entry comes after the cursor, it is the last that does. -/
theorem after_last_frame {entries : List Frame} {position : Option Nat} {frame : Frame} (last : entries.getLast? = some frame)
    (left : frame ∈ Keyset.after Frame.progressId position entries) :
    (Keyset.after Frame.progressId position entries).getLast? = some frame := by
  obtain ⟨before,rfl⟩ := List.getLast?_eq_some_iff.mp last
  have passes := ((Keyset.mem_after _).mp left).2
  have kept : Keyset.after Frame.progressId position [frame] = [frame] := Keyset.after_eq_self fun row member => by
    rw [List.mem_singleton.mp member]
    exact passes
  rw [Keyset.after_append,kept]
  simp

/-- A poll sends all that is left, and ends the stream where that is terminal. -/
theorem Balanced.poll {entries : List Frame} {stream : ProgressStream} (balanced : Balanced cursor entries stream)
    (feed : Feed entries) (open_ : stream.connection = .following) :
    Balanced cursor entries (stream.follow ((Keyset.after Frame.progressId stream.cursor entries).take page)) ∧
      (stream.follow ((Keyset.after Frame.progressId stream.cursor entries).take page)).sent =
        Keyset.after Frame.progressId cursor entries := by
  have short : (Keyset.after Frame.progressId stream.cursor entries).length ≤ page :=
    (List.length_filter_le _ _).trans feed.short
  rw [List.take_of_length_le short]
  cases ends : (Keyset.after Frame.progressId stream.cursor entries).getLast? with
  | none =>
    have nothing := List.getLast?_eq_none_iff.mp ends
    have balance := balanced.balance
    rw [nothing,List.append_nil] at balance
    rw [nothing,follow_nil]
    refine ⟨⟨balanced.balance,balanced.position,fun _ => balanced.following open_,fun impossible => ?_⟩,balance⟩
    cases impossible
  | some last =>
    have rest := feed.ascending.resume stream.cursor page (by rwa [List.take_of_length_le short])
    rw [List.take_of_length_le short,List.append_right_eq_self] at rest
    obtain ⟨member,onward⟩ := (Keyset.mem_after _).mp (List.mem_of_getLast? ends)
    have first : cursor.all (· < last.progressId) = true := by
      rcases balanced.position with same | ⟨frame,_,position,before⟩
      · rwa [← same]
      · rw [position] at onward
        cases cursor with
        | none => rfl
        | some cursor =>
          simp only [Option.all_some,decide_eq_true_eq] at onward before ⊢
          exact before.trans onward
    rw [follow_last _ _ last ends]
    refine ⟨⟨?_,Or.inr ⟨last,member,rfl,first⟩,fun following => ?_,fun ended => ?_⟩,balanced.balance⟩
    · rw [rest,List.append_nil]
      exact balanced.balance
    · have live : isTerminal last.entry.status = false := by
        by_contra terminal
        simp [Bool.eq_true_of_not_eq_false terminal] at following
      intro frame there
      rcases List.mem_append.mp there with old | new
      · exact balanced.following open_ frame old
      · by_contra terminal
        have whole := feed.last frame ((Keyset.mem_after _).mp new).1 (Bool.eq_true_of_not_eq_false terminal)
        rw [after_last_frame whole new,Option.some.injEq] at ends
        exact terminal (ends ▸ live)
    · refine ⟨last,by simp [ends],?_⟩
      by_contra live
      simp [Bool.eq_false_of_not_eq_true live] at ended

end Invariant

section Watching

variable {τ : Type} [DecidableEq τ] (drawn : Nat → Nat) (writer : τ → Writer) (operationId : OperationId) (cursor : Option Nat)

/-- The history of the watched operation as it is committed -/
def Watch.history (watch : Watch τ) : List Frame := PublicApi.history drawn operationId watch.rows

/-- The entries after the cursor are sent in their order, none left out and none twice; each poll catches up,
and a stream that ended has sent them all. -/
structure Delivers (watch : Watch τ) : Prop where
  ordered : watch.stream.sent <+: Keyset.after Frame.progressId cursor (watch.history drawn operationId)
  caughtUp : ∀ next, watch.step drawn writer operationId .poll = some next →
    next.stream.sent = Keyset.after Frame.progressId cursor (watch.history drawn operationId)
  complete : watch.stream.connection = .ended →
    watch.stream.sent = Keyset.after Frame.progressId cursor (watch.history drawn operationId)

def Watch.Terminal (watch : Watch τ) : Prop :=
  ∃ record, watch.rows (.operation operationId) = some record ∧ isTerminal record.operation.status = true

def WatchAction.isPoll : WatchAction τ → Bool
  | .poll => true
  | _ => false

/-- Once the operation is terminal, a bounded number of polls ends the stream, whatever the writers do between them. -/
def Ends (watch : Watch τ) : Prop :=
  watch.Terminal operationId → ∃ bound, ∀ actions later,
    StateMachine.run (Watch.step drawn writer operationId) watch actions = some later →
    bound ≤ actions.countP WatchAction.isPoll → later.stream.connection ≠ .following

def StreamHolds (watch : Watch τ) : Prop := Delivers drawn writer operationId cursor watch ∧ Ends drawn writer operationId watch

/-- However the writers go on, a terminal entry of the operation comes after the cursor. -/
def EndsAfter (pool : Pool TableRow Unit Unit τ) : Prop :=
  ∀ actions later, StateMachine.run (Pool.step schema fun t => (writer t).program) pool actions = some later →
    ∀ last, (history drawn operationId later.committed).getLast? = some last → isTerminal last.entry.status = true →
      cursor.all (· < last.progressId) = true

variable {drawn} {writer} {operationId} {cursor} {watch next : Watch τ}

structure Watched (drawn : Nat → Nat) (writer : τ → Writer) (operationId : OperationId) (cursor : Option Nat)
    (watch : Watch τ) : Prop where
  sound : (writerProtocol writer).Sound schema watch.pool
  balanced : Balanced cursor (watch.history drawn operationId) watch.stream

theorem Watched.feed (increasing : StrictMono drawn) (watched : Watched drawn writer operationId cursor watch) :
    Feed (watch.history drawn operationId) := history_feed increasing watched.sound.invariant

theorem write_cases {action : Transaction.Action τ} (stepped : watch.step drawn writer operationId (.write action) = some next) :
    next.stream = watch.stream ∧ watch.pool.step schema (fun t => (writer t).program) action = some next.pool := by
  obtain ⟨pool,moved,rfl⟩ := Option.map_eq_some_iff.mp stepped
  exact ⟨rfl,moved⟩

theorem Watched.grown {action : Transaction.Action τ} (watched : Watched drawn writer operationId cursor watch)
    (stepped : watch.step drawn writer operationId (.write action) = some next) :
    watch.history drawn operationId <+: next.history drawn operationId := by
  have moved := (write_cases stepped).2
  refine history_prefix ((writers_keep writer).rely watch.pool next.pool watched.sound [action] ?_)
  simp [StateMachine.run,moved]

theorem Watched.step (increasing : StrictMono drawn) (action : WatchAction τ)
    (watched : Watched drawn writer operationId cursor watch)
    (stepped : watch.step drawn writer operationId action = some next) : Watched drawn writer operationId cursor next := by
  cases action with
  | write action =>
    have sound := watched.sound.step (writers_keep writer) action (write_cases stepped).2
    obtain ⟨more,grown⟩ := watched.grown stepped
    refine ⟨sound,?_⟩
    rw [(write_cases stepped).1,← grown]
    exact watched.balanced.grow (grown ▸ history_feed increasing sound.invariant)
  | poll =>
    simp only [Watch.step,Option.ite_none_right_eq_some,Option.some.injEq] at stepped
    obtain ⟨following,rfl⟩ := stepped
    exact ⟨watched.sound,(watched.balanced.poll (watched.feed increasing) following).1⟩
  | unreadable =>
    simp only [Watch.step,Option.ite_none_right_eq_some,Option.some.injEq] at stepped
    obtain ⟨following,rfl⟩ := stepped
    refine ⟨watched.sound,⟨watched.balanced.balance,watched.balanced.position,fun impossible => ?_,fun impossible => ?_⟩⟩
    · cases impossible
    · cases impossible

theorem Watched.delivers (increasing : StrictMono drawn) (watched : Watched drawn writer operationId cursor watch) :
    Delivers drawn writer operationId cursor watch := by
  refine ⟨⟨_,watched.balanced.balance⟩,fun next stepped => ?_,fun ended => ?_⟩
  · simp only [Watch.step,Option.ite_none_right_eq_some,Option.some.injEq] at stepped
    obtain ⟨following,rfl⟩ := stepped
    exact (watched.balanced.poll (watched.feed increasing) following).2
  · -- the last frame sent is terminal, so it is the last of the history, and nothing is left after it
    obtain ⟨last,sent,terminal⟩ := watched.balanced.ended ended
    have balance := watched.balanced.balance
    have member : last ∈ Keyset.after Frame.progressId cursor (watch.history drawn operationId) := by
      rw [← balance]
      exact List.mem_append_left _ (List.mem_of_getLast? sent)
    have whole := (watched.feed increasing).last last ((Keyset.mem_after _).mp member).1 terminal
    have ends := after_last_frame whole member
    have rest := ((watched.feed increasing).ascending.after cursor)
    rw [← balance] at rest ends
    cases left : (Keyset.after Frame.progressId watch.stream.cursor (watch.history drawn operationId)).getLast? with
    | none =>
      rw [List.getLast?_eq_none_iff.mp left,List.append_nil] at balance
      exact balance
    | some final =>
      rw [List.getLast?_append,left,Option.some_or,Option.some.injEq] at ends
      subst ends
      have apart := (List.pairwise_append.mp rest).2.2 final (List.mem_of_getLast? sent) final (List.mem_of_getLast? left)
      exact absurd apart (lt_irrefl _)

/-- A terminal operation is one with a terminal entry, the last of its history. -/
theorem Watched.terminal_iff (watched : Watched drawn writer operationId cursor watch) : watch.Terminal operationId ↔
    ∃ last, (watch.history drawn operationId).getLast? = some last ∧ isTerminal last.entry.status = true := by
  rw [Watch.Terminal,Watch.history,PublicApi.history]
  cases stored : watch.rows (.operation operationId) with
  | none => simp
  | some record =>
    have last := (watched.sound.invariant operationId record stored).last
    simp only [Option.some.injEq,exists_eq_left']
    cases ends : record.progress.getLast? with
    | none =>
      rw [ends] at last
      have empty := List.getLast?_eq_none_iff.mp ends
      simp only [last,frames,empty,List.zipIdx_nil,List.map_nil,List.getLast?_nil,reduceCtorEq,false_and,exists_false,iff_false]
      decide
    | some entry =>
      rw [ends] at last
      obtain ⟨before,split⟩ := List.getLast?_eq_some_iff.mp ends
      have frame : (frames drawn record).getLast? = some ⟨drawn before.length,entry⟩ := by
        simp [frames,split,List.zipIdx_append]
      simp only [frame,Option.some.injEq,exists_eq_left',last]

/-- A stream that is over stays so. -/
theorem ended_stays (actions : List (WatchAction τ)) (later : Watch τ) (finished : watch.stream.connection ≠ .following)
    (ran : StateMachine.run (Watch.step drawn writer operationId) watch actions = some later) :
    later.stream.connection ≠ .following := by
  refine StateMachine.run_invariant _ (fun watch : Watch τ => watch.stream.connection ≠ .following)
    (fun watch action next finished stepped => ?_) watch actions later finished ran
  cases action with
  | write action => rwa [(write_cases stepped).1]
  | poll | unreadable => simp [Watch.step,finished] at stepped

/-- Where the terminal entry comes after the cursor, the next poll ends the stream. -/
theorem Watched.ends (increasing : StrictMono drawn) (watched : Watched drawn writer operationId cursor watch) {last : Frame}
    (ends : (watch.history drawn operationId).getLast? = some last) (terminal : isTerminal last.entry.status = true)
    (ahead : cursor.all (· < last.progressId) = true) (actions : List (WatchAction τ)) (later : Watch τ)
    (ran : StateMachine.run (Watch.step drawn writer operationId) watch actions = some later)
    (polled : 1 ≤ actions.countP WatchAction.isPoll) : later.stream.connection ≠ .following := by
  induction actions generalizing watch with
  | nil => simp at polled
  | cons action actions ih =>
    obtain ⟨next,stepped,rest⟩ := (StateMachine.run_cons_eq_some _ _ _ _ _).mp ran
    have kept := watched.step increasing action stepped
    cases action with
    | write action =>
      refine ih kept ?_ rest (by simpa [List.countP_cons,WatchAction.isPoll] using polled)
      exact (kept.feed increasing).last last ((watched.grown stepped).subset (List.mem_of_getLast? ends)) terminal
    | poll =>
      have caught := (watched.delivers increasing).caughtUp next stepped
      refine ended_stays actions later (fun following => ?_) rest
      have sent : last ∈ next.stream.sent := by
        rw [caught]
        exact (Keyset.mem_after _).mpr ⟨List.mem_of_getLast? ends,ahead⟩
      have live := kept.balanced.following following last sent
      rw [terminal] at live
      cases live
    | unreadable =>
      simp only [Watch.step,Option.ite_none_right_eq_some,Option.some.injEq] at stepped
      obtain ⟨_,rfl⟩ := stepped
      exact ended_stays actions later (by simp) rest

/-- Where it does not, no number of polls does. -/
theorem Watched.never_ends (increasing : StrictMono drawn) (watched : Watched drawn writer operationId cursor watch)
    {last : Frame} (following : watch.stream.connection = .following)
    (ends : (watch.history drawn operationId).getLast? = some last) (behind : ¬cursor.all (· < last.progressId) = true)
    (count : Nat) :
    StateMachine.run (Watch.step drawn writer operationId) watch (List.replicate count .poll) = some watch := by
  have nothing : Keyset.after Frame.progressId cursor (watch.history drawn operationId) = [] := by
    cases cursor with
    | none => simp at behind
    | some cursor =>
      simp only [Option.all_some,decide_eq_true_eq,Nat.not_lt] at behind
      obtain ⟨before,split⟩ := List.getLast?_eq_some_iff.mp ends
      have ascending := (watched.feed increasing).ascending
      rw [split] at ascending ⊢
      refine Keyset.after_eq_nil fun row member => ?_
      rcases List.mem_append.mp member with early | own
      · have above := (List.pairwise_append.mp ascending).2.2 row early last (List.mem_singleton_self _)
        omega
      · rwa [List.mem_singleton.mp own]
  have left : Keyset.after Frame.progressId watch.stream.cursor (watch.history drawn operationId) = [] :=
    (List.append_eq_nil_iff.mp (watched.balanced.balance.trans nothing)).2
  have stays : watch.step drawn writer operationId .poll = some watch := by
    rw [Watch.step,if_pos following,progressSince]
    rw [Watch.history] at left
    rw [left,List.take_nil,follow_nil,← following]
  induction count with
  | zero => rfl
  | succ count ih => rw [List.replicate_succ,StateMachine.run,stays,Option.bind_some,ih]

variable (drawn operationId cursor) in
theorem watched_initial {pool : Pool TableRow Unit Unit τ} (sound : (writerProtocol writer).Sound schema pool) :
    Watched drawn writer operationId cursor ⟨pool,progressStream cursor⟩ :=
  ⟨sound,⟨List.nil_append _,Or.inl rfl,fun _ _ member => absurd member List.not_mem_nil,fun impossible => by cases impossible⟩⟩

/-- The writers of a watched run have a run of their own. -/
theorem writers_run (actions : List (WatchAction τ)) (later : Watch τ)
    (ran : StateMachine.run (Watch.step drawn writer operationId) watch actions = some later) :
    ∃ writes, StateMachine.run (Pool.step schema fun t => (writer t).program) watch.pool writes = some later.pool := by
  induction actions generalizing watch with
  | nil => exact ⟨[],congrArg (Option.map Watch.pool) ran⟩
  | cons action actions ih =>
    obtain ⟨next,stepped,rest⟩ := (StateMachine.run_cons_eq_some _ _ _ _ _).mp ran
    obtain ⟨writes,written⟩ := ih rest
    cases action with
    | write action =>
      exact ⟨action :: writes,(StateMachine.run_cons_eq_some _ _ _ _ _).mpr ⟨next.pool,(write_cases stepped).2,written⟩⟩
    | poll | unreadable =>
      simp only [Watch.step,Option.ite_none_right_eq_some,Option.some.injEq] at stepped
      obtain ⟨_,rfl⟩ := stepped
      exact ⟨writes,written⟩

theorem watched_run (stream : ProgressStream) (writes : List (Transaction.Action τ)) (pool later : Pool TableRow Unit Unit τ)
    (ran : StateMachine.run (Pool.step schema fun t => (writer t).program) pool writes = some later) :
    StateMachine.run (Watch.step drawn writer operationId) ⟨pool,stream⟩ (writes.map .write) = some ⟨later,stream⟩ := by
  induction writes generalizing pool with
  | nil => exact congrArg (Option.map fun pool => (⟨pool,stream⟩ : Watch τ)) ran
  | cons action writes ih =>
    obtain ⟨next,stepped,rest⟩ := (StateMachine.run_cons_eq_some _ _ _ _ _).mp ran
    refine (StateMachine.run_cons_eq_some _ _ _ _ _).mpr ⟨⟨next,stream⟩,?_,ih next rest⟩
    rw [Watch.step,stepped]
    rfl

/-- A stream opened at any moment delivers what it should and ends, in every run, exactly when its cursor does
not name the terminal entry or one after it. -/
theorem progress_stream_holds_iff (drawn : Nat → Nat) (increasing : StrictMono drawn) (writer : τ → Writer) (store : Db)
    (valid : Valid store) (pool : Pool TableRow Unit Unit τ)
    (reached : Pool.Reachable schema (fun t => (writer t).program) store pool) (operationId : OperationId)
    (cursor : Option Nat) :
    (∀ actions watch, StateMachine.run (Watch.step drawn writer operationId) ⟨pool,progressStream cursor⟩ actions = some watch →
      StreamHolds drawn writer operationId cursor watch) ↔ EndsAfter drawn writer operationId cursor pool := by
  have start := watched_initial drawn operationId cursor
    ((writers_keep writer).sound store valid pool reached)
  constructor
  · intro holds writes later ran last ends terminal
    by_contra behind
    have watched : Watched drawn writer operationId cursor ⟨later,progressStream cursor⟩ :=
      StateMachine.run_invariant _ _ (fun _ action _ watched stepped => watched.step increasing action stepped) _ _ _ start
        (watched_run (progressStream cursor) writes pool later ran)
    have finished := watched.terminal_iff.mpr ⟨last,ends,terminal⟩
    obtain ⟨bound,polls⟩ := (holds _ _ (watched_run (progressStream cursor) writes pool later ran)).2 finished
    exact polls _ _ (watched.never_ends increasing rfl ends behind bound) (by simp [List.countP_replicate,WatchAction.isPoll]) rfl
  · intro after actions watch ran
    have watched : Watched drawn writer operationId cursor watch :=
      StateMachine.run_invariant _ _ (fun _ action _ watched stepped => watched.step increasing action stepped) _ _ _ start ran
    refine ⟨watched.delivers increasing,fun finished => ⟨1,fun later_actions later further polled => ?_⟩⟩
    obtain ⟨last,ends,terminal⟩ := watched.terminal_iff.mp finished
    obtain ⟨writes,written⟩ := writers_run actions watch ran
    exact watched.ends increasing ends terminal (after writes _ written last ends terminal) later_actions later further polled

end Watching

section Finished

/-- An operation that succeeded after one report. -/
def finishedRecord : OperationRecord where
  operation := ⟨1,"capture.submit",.succeeded,none,none,"correlation:1",none,none,false,none,0,1,some 1⟩
  progress := [⟨1,.succeeded,none,none,none⟩]
  results := []
  diagnostics := []

def finishedRows : Db := Function.update (fun _ => none) (.operation 1) (some finishedRecord)

theorem finished_rows_valid : Valid finishedRows := by
  intro operationId record stored
  have same : record = finishedRecord := by
    by_cases own : operationId = 1
    · subst own
      rw [finishedRows,Function.update_self] at stored
      exact (Option.some.inj stored).symm
    · rw [finishedRows,Function.update_of_ne (by simpa using own)] at stored
      cases stored
  subst same
  exact ⟨by decide +kernel,by decide,rfl,by decide,rfl⟩

/-- Nothing writes any more. -/
def idleWriter : Nat → Writer := fun _ => .cancel 1 1 2

def finishedWatch (cursor : Option Nat) : Watch Nat := ⟨Pool.initial finishedRows,progressStream cursor⟩

def finishedStep : Watch Nat → WatchAction Nat → Option (Watch Nat) := Watch.step id idleWriter 1

def endsFromStart : Bool :=
  (StateMachine.run finishedStep (finishedWatch none) [.poll]).any fun watch =>
    watch.stream.connection == .ended && watch.stream.sent.map Frame.progressId == [0]

theorem stream_holds_from_start : ∃ watch, StateMachine.run finishedStep (finishedWatch none) [.poll] = some watch ∧
    watch.stream.connection = .ended ∧ watch.stream.sent.map Frame.progressId = [0] ∧
    StreamHolds id idleWriter 1 none watch := by
  have ends : endsFromStart = true := by decide +kernel
  simp only [endsFromStart,Option.any_eq_true,Bool.and_eq_true,beq_iff_eq] at ends
  obtain ⟨watch,ran,ended,sent⟩ := ends
  exact ⟨watch,ran,ended,sent,(progress_stream_holds_iff id strictMono_id idleWriter finishedRows finished_rows_valid
    (Pool.initial finishedRows) ⟨[],rfl⟩ 1 none).mpr (fun _ _ _ _ _ _ => rfl) [.poll] watch ran⟩

/-- A client that names the terminal entry is polled for without end. -/
theorem named_end_never_ends : (∀ count, StateMachine.run finishedStep (finishedWatch (some 0)) (List.replicate count .poll) =
      some (finishedWatch (some 0))) ∧
    (finishedWatch (some 0)).Terminal 1 ∧ ¬StreamHolds id idleWriter 1 (some 0) (finishedWatch (some 0)) := by
  have stays : finishedStep (finishedWatch (some 0)) .poll = some (finishedWatch (some 0)) := rfl
  have polls (count : Nat) : StateMachine.run finishedStep (finishedWatch (some 0)) (List.replicate count .poll) =
      some (finishedWatch (some 0)) := by
    induction count with
    | zero => rfl
    | succ count ih => rw [List.replicate_succ,StateMachine.run,stays,Option.bind_some,ih]
  have finished : (finishedWatch (some 0)).Terminal 1 := ⟨finishedRecord,rfl,rfl⟩
  refine ⟨polls,finished,fun holds => ?_⟩
  obtain ⟨bound,ends⟩ := holds.2 finished
  exact ends _ _ (polls bound) (by simp [List.countP_replicate,WatchAction.isPoll]) rfl

end Finished

end Ratatoskr.PublicApi
