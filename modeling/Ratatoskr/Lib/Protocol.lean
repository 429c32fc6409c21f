import Ratatoskr.Lib.Pool

/-! Rely/guarantee reasoning about pools. A protocol says what each transaction may publish and
what it may count on while others publish; a body proved safe against the protocol keeps to it in
every interleaving. -/
set_option linter.unusedSectionVars false

namespace Transaction

variable {κ τ : Type} {ν : κ → Type} {β α γ : Type} [DecidableEq κ] [DecidableEq τ]

/-- `Rely` is what a transaction may assume of the commits made while it runs. -/
structure Protocol (ν : κ → Type) (β α τ : Type) where
  Invariant : Store ν → Prop
  Rely : Store ν → Store ν → Prop
  Commits : τ → α → Drafts ν → Store ν → Prop
  Abandons : τ → β → Store ν → Prop
  Refuses : τ → Refusal ν → Prop
  rely_refl : ∀ s, Rely s s
  rely_trans : ∀ s m f, Rely s m → Rely m f → Rely s f
  commit_invariant : ∀ t v d s, Invariant s → Commits t v d s → Invariant (overlay d s)
  commit_rely : ∀ t v d s, Invariant s → Commits t v d s → Rely s (overlay d s)
  abandon_stable : ∀ t b s s', Rely s s' → Abandons t b s → Abandons t b s'

namespace Protocol

variable (P : Protocol ν β α τ)

/-- The committed rows may have moved on, but not those of a key the transaction holds. -/
def Env (drafts : Drafts ν) (s s' : Store ν) : Prop :=
  P.Invariant s' ∧ P.Rely s s' ∧ ∀ key, (drafts key).isSome → s' key = s key

theorem Env.refl (drafts : Drafts ν) (valid : P.Invariant s) : P.Env drafts s s :=
  ⟨valid,P.rely_refl s,fun _ _ => rfl⟩

theorem Env.trans (first : P.Env drafts s m) (second : P.Env drafts m f) : P.Env drafts s f :=
  ⟨second.1,P.rely_trans s m f first.2.1 second.2.1,
    fun key held => (second.2.2 key held).trans (first.2.2 key held)⟩

/-- Whatever others commit between its statements, the body keeps to the protocol, and where it
ends `post` holds of its value, its drafts and the committed rows. -/
def Safe (accepts : Constraints ν) (t : τ) (post : γ → Drafts ν → Store ν → Prop) :
    Tx ν β γ → Drafts ν → Store ν → Prop
  | .done value,drafts,s => ∀ s', P.Env drafts s s' → post value drafts s'
  | .abandon answer,drafts,s => ∀ s', P.Env drafts s s' → P.Abandons t answer s'
  | .refuse key row,drafts,s => ∀ s', P.Env drafts s s' → P.Refuses t ⟨key,overlay drafts s' key,row⟩
  | .read key next,drafts,s => ∀ s', P.Env drafts s s' →
      Safe accepts t post (next (overlay drafts s' key)) drafts s'
  | .lock key matching next,drafts,s => ∀ s', P.Env drafts s s' →
      Safe accepts t post (next ((overlay drafts s' key).filter matching))
        (drafts.lockFound key ((overlay drafts s' key).filter matching)) s'
  | .insert key row next,drafts,s => ∀ s', P.Env drafts s s' →
      if accepts key none row then
        match overlay drafts s' key with
        | none => Safe accepts t post (next true) (drafts.put key (some row)) s'
        | some _ => Safe accepts t post (next false) drafts s'
      else P.Refuses t ⟨key,none,row⟩
  | .write key row next,drafts,s => ∀ s', P.Env drafts s s' →
      if accepts key (overlay drafts s' key) row then
        Safe accepts t post next (drafts.put key (some row)) s'
      else P.Refuses t ⟨key,overlay drafts s' key,row⟩
  | .remove key next,drafts,s => ∀ s', P.Env drafts s s' →
      Safe accepts t post next (drafts.put key none) s'

variable {P} {accepts : Constraints ν} {t : τ}

theorem Safe.stable {post : γ → Drafts ν → Store ν → Prop} {body : Tx ν β γ} {drafts : Drafts ν}
    {s s' : Store ν} (safe : P.Safe accepts t post body drafts s) (env : P.Env drafts s s') :
    P.Safe accepts t post body drafts s' := by
  cases body <;> exact fun later moved => safe later (env.trans P moved)

/-- A weaker end is enough, and it may count on the invariant. -/
theorem Safe.weaken {post after : γ → Drafts ν → Store ν → Prop} {body : Tx ν β γ} {drafts : Drafts ν} {s : Store ν}
    (safe : P.Safe accepts t post body drafts s)
    (implies : ∀ value later s', P.Invariant s' → post value later s' → after value later s') :
    P.Safe accepts t after body drafts s := by
  induction body generalizing drafts s with
  | done value => exact fun s' env => implies value drafts s' env.1 (safe s' env)
  | abandon => exact safe
  | refuse => exact safe
  | read key next ih => exact fun s' env => ih _ (safe s' env)
  | lock key matching next ih => exact fun s' env => ih _ (safe s' env)
  | insert key row next ih =>
    intro s' env
    have here := safe s' env
    split at here
    · rw [if_pos ‹_›]
      split at here
      · exact ih _ here
      · exact ih _ here
    · rw [if_neg ‹_›]
      exact here
  | write key row next ih =>
    intro s' env
    have here := safe s' env
    split at here
    · rw [if_pos ‹_›]
      exact ih here
    · rw [if_neg ‹_›]
      exact here
  | remove key next ih => exact fun s' env => ih (safe s' env)

theorem Safe.bind {post : γ → Drafts ν → Store ν → Prop} {body : Tx ν β δ} {f : δ → Tx ν β γ}
    {drafts : Drafts ν} {s : Store ν} (valid : P.Invariant s)
    (safe : P.Safe accepts t (fun value later => P.Safe accepts t post (f value) later) body drafts s) :
    P.Safe accepts t post (body.bind f) drafts s := by
  induction body generalizing drafts s with
  | done value => exact safe s (Env.refl P _ valid)
  | abandon => exact safe
  | refuse => exact safe
  | read key next ih => exact fun s' env => ih _ env.1 (safe s' env)
  | lock key matching next ih => exact fun s' env => ih _ env.1 (safe s' env)
  | insert key row next ih =>
    intro s' env
    have here := safe s' env
    split at here
    · rw [if_pos ‹_›]
      split at here
      · exact ih _ env.1 here
      · exact ih _ env.1 here
    · rw [if_neg ‹_›]
      exact here
  | write key row next ih =>
    intro s' env
    have here := safe s' env
    split at here
    · rw [if_pos ‹_›]
      exact ih env.1 here
    · rw [if_neg ‹_›]
      exact here
  | remove key next ih => exact fun s' env => ih env.1 (safe s' env)

/-- Running with nothing else going on is one of the schedules. -/
theorem Safe.alone {post : γ → Drafts ν → Store ν → Prop} {body : Tx ν β γ} {drafts : Drafts ν}
    {s : Store ν} (valid : P.Invariant s) (safe : P.Safe accepts t post body drafts s) :
    match exec accepts body (overlay drafts s) with
    | .done value rows => ∃ later, overlay later s = rows ∧ post value later s
    | .abandoned answer => P.Abandons t answer s
    | .refused refusal => P.Refuses t refusal := by
  have env (drafts : Drafts ν) := Env.refl P drafts valid
  induction body generalizing drafts with
  | done value => exact ⟨drafts,rfl,safe s (env _)⟩
  | abandon => exact safe s (env _)
  | refuse => exact safe s (env _)
  | read key next ih => exact ih _ (safe s (env _))
  | lock key matching next ih =>
    have here := ih _ (safe s (env _))
    rwa [overlay_lockFound] at here
  | insert key row next ih =>
    have here := safe s (env _)
    rw [exec]
    split at here
    · rename_i accepted
      rw [if_pos accepted]
      split at here
      · rename_i absent
        simpa only [absent,overlay_put] using ih _ here
      · rename_i found
        simpa only [found] using ih _ here
    · rename_i refused
      rwa [if_neg refused]
  | write key row next ih =>
    have here := safe s (env _)
    rw [exec]
    split at here
    · rename_i accepted
      simpa only [if_pos accepted,overlay_put] using ih here
    · rename_i refused
      rwa [if_neg refused]
  | remove key next ih =>
    have here := ih (safe s (env _))
    rwa [overlay_put] at here

theorem Env.weaken {drafts more : Drafts ν} {s s' : Store ν} (env : P.Env more s s')
    (held : ∀ key, (drafts key).isSome → (more key).isSome) : P.Env drafts s s' :=
  ⟨env.1,env.2.1,fun key own => env.2.2 key (held key own)⟩

theorem Env.overlay_eq {drafts : Drafts ν} {s s' : Store ν} (env : P.Env drafts s s') (key : κ)
    (held : (drafts key).isSome) : overlay drafts s' key = overlay drafts s key := by
  simp only [overlay]
  split
  · rfl
  · exact env.2.2 key held

section Held

variable {keys : κ → Prop} {post : γ → Drafts ν → Store ν → Prop}

/-- How a body confined to some keys has to end when it is run alone from where it stands. -/
def Ends (P : Protocol ν β α τ) (t : τ) (keys : κ → Prop) (post : γ → Drafts ν → Store ν → Prop)
    (drafts : Drafts ν) (s : Store ν) : Outcome ν β γ → Prop
  | .done value rows => ∀ later, overlay later s = rows → (∀ key, ¬keys key → later key = drafts key) →
      post value later s
  | .abandoned answer => P.Abandons t answer s
  | .refused refusal => P.Refuses t refusal

theorem put_outside {drafts now : Drafts ν} {key : κ} (inside : keys key) (row : Option (ν key))
    (others : ∀ other, ¬keys other → now other = drafts other) (other : κ) (outside : ¬keys other) :
    (now.put key row) other = drafts other := by
  have different : other ≠ key := fun same => outside (same ▸ inside)
  rw [put_of_ne _ _ _ _ different,others other outside]

theorem lockFound_outside {drafts now : Drafts ν} {key : κ} (inside : keys key) (found : Option (ν key))
    (others : ∀ other, ¬keys other → now other = drafts other) (other : κ) (outside : ¬keys other) :
    (now.lockFound key found) other = drafts other := by
  have different : other ≠ key := fun same => outside (same ▸ inside)
  rw [lockFound_of_ne _ _ _ _ different,others other outside]

/-- A body that only touches keys it holds is safe when its run alone ends well. -/
theorem Safe.of_exec {body : Tx ν β γ} {drafts : Drafts ν} {s : Store ν} (within : Within keys body)
    (held : ∀ key, keys key → (drafts key).isSome)
    (ends : ∀ s', P.Env drafts s s' →
      P.Ends t keys post drafts s' (exec accepts body (overlay drafts s'))) :
    P.Safe accepts t post body drafts s := by
  -- The drafts of the moment differ from the first ones on the body's own keys only.
  suffices general : ∀ (now : Drafts ν) (s : Store ν), (∀ key, ¬keys key → now key = drafts key) →
      (∀ key, (drafts key).isSome → (now key).isSome) →
      (∀ s', P.Env now s s' → P.Ends t keys post drafts s' (exec accepts body (overlay now s'))) →
      P.Safe accepts t post body now s from
    general drafts s (fun _ _ => rfl) (fun _ => id) ends
  clear ends
  induction body with
  | done value => exact fun now s others _ ends s' env => ends s' env now rfl others
  | abandon answer => exact fun now s _ _ ends s' env => ends s' env
  | refuse key row => exact fun now s _ _ ends s' env => ends s' env
  | read key next ih =>
    intro now s others grown ends s' env
    refine ih _ (within.2 _) now s' others grown fun s'' later => ?_
    have here := ends s'' (env.trans P later)
    rwa [exec,later.overlay_eq key (grown key (held key within.1))] at here
  | lock key matching next ih =>
    intro now s others grown ends s' env
    refine ih _ (within.2 _) _ s' (lockFound_outside within.1 _ others)
      (fun other own => lockFound_isSome_of now key _ other (grown other own)) fun s'' later => ?_
    have later := later.weaken (lockFound_isSome_of now key _)
    have here := ends s'' (env.trans P later)
    rwa [exec,later.overlay_eq key (grown key (held key within.1)),← overlay_lockFound now key _ s''] at here
  | insert key row next ih =>
    intro now s others grown ends s' env
    have sees (s'') (later : P.Env now s' s'') := later.overlay_eq key (grown key (held key within.1))
    split
    · rename_i accepted
      split
      · rename_i absent
        refine ih _ (within.2 _) _ s' (put_outside within.1 _ others)
          (fun other own => put_isSome_of now key _ other (grown other own)) fun s'' later => ?_
        have later := later.weaken (put_isSome_of now key _)
        have here := ends s'' (env.trans P later)
        simp only [exec,accepted,if_true,sees s'' later,absent] at here
        rwa [overlay_put]
      · rename_i stored found
        refine ih _ (within.2 _) now s' others grown fun s'' later => ?_
        have here := ends s'' (env.trans P later)
        simpa only [exec,accepted,if_true,sees s'' later,found] using here
    · rename_i refused
      have here := ends s' env
      rwa [exec,if_neg refused] at here
  | write key row next ih =>
    intro now s others grown ends s' env
    have sees (s'') (later : P.Env now s' s'') := later.overlay_eq key (grown key (held key within.1))
    split
    · rename_i accepted
      refine ih within.2 _ s' (put_outside within.1 _ others)
        (fun other own => put_isSome_of now key _ other (grown other own)) fun s'' later => ?_
      have later := later.weaken (put_isSome_of now key _)
      have here := ends s'' (env.trans P later)
      rw [exec,sees s'' later,if_pos accepted] at here
      rwa [overlay_put]
    · rename_i refused
      have here := ends s' env
      rwa [exec,if_neg refused] at here
  | remove key next ih =>
    intro now s others grown ends s' env
    refine ih within.2 _ s' (put_outside within.1 _ others)
      (fun other own => put_isSome_of now key _ other (grown other own)) fun s'' later => ?_
    have later := later.weaken (put_isSome_of now key _)
    have here := ends s'' (env.trans P later)
    rwa [overlay_put]

/-- A body that locks its one key first is safe when its run alone ends well from any rows it may
find there. -/
theorem Safe.lock_first {key : κ} {matching : ν key → Bool} {next : Option (ν key) → Tx ν β γ}
    {drafts : Drafts ν} {s : Store ν} (within : Within (· = key) (.lock key matching next))
    (absent : ∀ s', P.Env drafts s s' → (overlay drafts s' key).filter matching = none →
      P.Safe accepts t post (next none) drafts s')
    (ends : ∀ s' row, P.Env drafts s s' → (overlay drafts s' key).filter matching = some row →
      P.Ends t (· = key) post (drafts.lock key) s'
        (exec accepts (.lock key matching next) (overlay drafts s'))) :
    P.Safe accepts t post (.lock key matching next) drafts s := by
  intro s' env
  rcases found : (overlay drafts s' key).filter matching with _ | row
  · exact absent s' env found
  have own : ((drafts.lock key) key).isSome := (lock_isSome _ _ _).mpr (Or.inl rfl)
  refine Safe.of_exec (within.2 _) (fun _ same => same ▸ own) fun s'' later => ?_
  have sees : overlay drafts s'' key = overlay drafts s' key := by
    have kept := later.overlay_eq key own
    rwa [Drafts.lockFound,Option.isSome_some,if_pos rfl,overlay_lock,overlay_lock] at kept
  have moved : P.Env drafts s' s'' := later.weaken fun other held => (lock_isSome _ _ _).mpr (Or.inr held)
  have here := ends s'' row (env.trans P moved) (sees ▸ found)
  rw [exec,sees,found] at here
  simpa [Drafts.lockFound] using here

/-- A body confined to some keys leaves its transaction's other drafts as they were, and may see
anything at its own. -/
theorem Safe.confined {answers : β → Prop} {body : Tx ν β γ} {drafts : Drafts ν} {s : Store ν}
    (within : Within keys body) (leaves : Leaves answers body)
    (ends : ∀ value later s', (∀ key, ¬keys key → later key = drafts key) →
      (∀ key, (drafts key).isSome → (later key).isSome) → P.Env drafts s s' → post value later s')
    (abandons : ∀ answer s', answers answer → P.Env drafts s s' → P.Abandons t answer s')
    (refuses : ∀ refusal, keys refusal.key → P.Refuses t refusal) :
    P.Safe accepts t post body drafts s := by
  -- The drafts of the moment differ from the first ones on the body's own keys only.
  suffices general : ∀ (now : Drafts ν) (s' : Store ν), (∀ key, ¬keys key → now key = drafts key) →
      (∀ key, (drafts key).isSome → (now key).isSome) → (∀ f, P.Env now s' f → P.Env drafts s f) →
      P.Safe accepts t post body now s' from
    general drafts s (fun _ _ => rfl) (fun _ => id) fun _ => id
  induction body with
  | done value => exact fun now s' others grown env f moved => ends value now f others grown (env f moved)
  | abandon answer => exact fun now s' _ _ env f moved => abandons answer f leaves (env f moved)
  | refuse key row => exact fun now s' _ _ _ f _ => refuses _ within
  | read key next ih =>
    intro now s' others grown env f moved
    exact ih _ (within.2 _) (leaves _) now f others grown fun g later => env g (moved.trans P later)
  | lock key matching next ih =>
    intro now s' others grown env f moved
    refine ih _ (within.2 _) (leaves _) _ f (lockFound_outside within.1 _ others)
      (fun other own => lockFound_isSome_of now key _ other (grown other own)) fun g later => ?_
    exact env g (moved.trans P (later.weaken (lockFound_isSome_of now key _)))
  | insert key row next ih =>
    intro now s' others grown env f moved
    split
    · split
      · refine ih _ (within.2 _) (leaves _) _ f (put_outside within.1 _ others)
          (fun other own => put_isSome_of now key _ other (grown other own)) fun g later => ?_
        exact env g (moved.trans P (later.weaken (put_isSome_of now key _)))
      · exact ih _ (within.2 _) (leaves _) now f others grown fun g later => env g (moved.trans P later)
    · exact refuses _ within.1
  | write key row next ih =>
    intro now s' others grown env f moved
    split
    · refine ih within.2 leaves _ f (put_outside within.1 _ others)
        (fun other own => put_isSome_of now key _ other (grown other own)) fun g later => ?_
      exact env g (moved.trans P (later.weaken (put_isSome_of now key _)))
    · exact refuses _ within.1
  | remove key next ih =>
    intro now s' others grown env f moved
    refine ih within.2 leaves _ f (put_outside within.1 _ others)
      (fun other own => put_isSome_of now key _ other (grown other own)) fun g later => ?_
    exact env g (moved.trans P (later.weaken (put_isSome_of now key _)))

end Held

/-- The row of a key that was just locked stays in sight. -/
theorem Env.locked {drafts : Drafts ν} {key : κ} {row : ν key} {s s' : Store ν}
    (env : P.Env (drafts.lockFound key (some row)) s s') :
    P.Env drafts s s' ∧ overlay drafts s' key = overlay drafts s key := by
  have own : ((drafts.lockFound key (some row)) key).isSome := (lock_isSome _ _ _).mpr (Or.inl rfl)
  have sees := env.overlay_eq key own
  rw [overlay_lockFound,overlay_lockFound] at sees
  exact ⟨env.weaken fun other held => lockFound_isSome_of _ _ _ other held,sees⟩

section Holding

variable {drafts : Drafts ν} {s s' : Store ν} {known : List ((key : κ) × Option (ν key))}

/-- What a transaction knows of the committed rows: those of keys it holds, as it found them. -/
def Knows (drafts : Drafts ν) (s : Store ν) (known : List ((key : κ) × Option (ν key))) : Prop :=
  ∀ entry ∈ known, (drafts entry.1).isSome ∧ s entry.1 = entry.2

theorem knows_nothing (drafts : Drafts ν) (s : Store ν) : Knows drafts s [] := fun _ member => by cases member

theorem Knows.env (knows : Knows drafts s known) (env : P.Env drafts s s') : Knows drafts s' known := fun entry member =>
  ⟨(knows entry member).1,(env.2.2 _ (knows entry member).1).trans (knows entry member).2⟩

theorem Knows.put (knows : Knows drafts s known) (key : κ) (written : Option (ν key)) :
    Knows (drafts.put key written) s known := fun entry member =>
  ⟨put_isSome_of _ _ _ _ (knows entry member).1,(knows entry member).2⟩

theorem Knows.lock (knows : Knows drafts s known) (key : κ) : Knows (drafts.lock key) s known := fun entry member =>
  ⟨(lock_isSome _ _ _).mpr (Or.inr (knows entry member).1),(knows entry member).2⟩

theorem Knows.learn (knows : Knows drafts s known) (key : κ) (row : Option (ν key)) (held : (drafts key).isSome)
    (stored : s key = row) : Knows drafts s (⟨key,row⟩ :: known) := by
  intro entry member
  rcases List.mem_cons.mp member with rfl | old
  · exact ⟨held,stored⟩
  · exact knows entry old

/-- After a lock of a row that was there. -/
theorem Knows.locked (knows : Knows drafts s known) (env : P.Env drafts s s') (key : κ) (row : Option (ν key))
    (stored : s' key = row) : Knows (drafts.lock key) s' (⟨key,row⟩ :: known) :=
  ((knows.env env).lock key).learn key row ((lock_isSome _ _ _).mpr (Or.inl rfl)) stored

/-- After a write to a key that was free or is now held. -/
theorem Knows.wrote (knows : Knows drafts s known) (env : P.Env drafts s s') (key : κ) (row : Option (ν key))
    (stored : s' key = row) (written : Option (ν key)) : Knows (drafts.put key written) s' (⟨key,row⟩ :: known) :=
  ((knows.env env).put key written).learn key row ((put_isSome _ _ _ _).mpr (Or.inl rfl)) stored

theorem Knows.of_mem (knows : Knows drafts s known) (key : κ) (row : Option (ν key)) (member : ⟨key,row⟩ ∈ known) :
    s key = row := (knows _ member).2

end Holding

section Statements

variable {post : γ → Drafts ν → Store ν → Prop} {key : κ} {drafts : Drafts ν} {s : Store ν}

theorem Safe.insertNew {row : ν key} {f : Unit → Tx ν β γ} (refuses : ∀ stored, P.Refuses t ⟨key,stored,row⟩)
    (next : ∀ s', P.Env drafts s s' → overlay drafts s' key = none →
      P.Safe accepts t post (f ()) (drafts.put key (some row)) s') :
    P.Safe accepts t post ((Tx.insertNew key row).bind f) drafts s := by
  intro s' env
  split
  · split
    · rename_i absent
      exact next s' env absent
    · exact fun later _ => refuses _
  · exact refuses _

theorem Safe.insertUnlessConflict {row : ν key} {f : Bool → Tx ν β γ} (refuses : P.Refuses t ⟨key,none,row⟩)
    (fresh : ∀ s', P.Env drafts s s' → overlay drafts s' key = none →
      P.Safe accepts t post (f true) (drafts.put key (some row)) s')
    (conflict : ∀ s' stored, P.Env drafts s s' → overlay drafts s' key = some stored →
      P.Safe accepts t post (f false) drafts s') :
    P.Safe accepts t post ((Tx.insertUnlessConflict key row).bind f) drafts s := by
  intro s' env
  split
  · split
    · rename_i absent
      exact fresh s' env absent
    · rename_i stored found
      exact conflict s' stored env found
  · exact refuses

theorem Safe.selectForUpdate {matching : ν key → Bool} {f : Option (ν key) → Tx ν β γ}
    (absent : ∀ s', P.Env drafts s s' → (overlay drafts s' key).filter matching = none →
      P.Safe accepts t post (f none) drafts s')
    (found : ∀ s' row, P.Env drafts s s' → overlay drafts s' key = some row → matching row = true →
      P.Safe accepts t post (f (some row)) (drafts.lock key) s') :
    P.Safe accepts t post ((Tx.selectForUpdate key matching).bind f) drafts s := by
  intro s' env
  rcases filtered : (overlay drafts s' key).filter matching with _ | row
  · exact absent s' env filtered
  · obtain ⟨stored,matched⟩ := Option.filter_eq_some_iff.mp filtered
    exact found s' row env stored matched

theorem Safe.deleteWhere {matching : ν key → Bool} {f : Bool → Tx ν β γ}
    (absent : ∀ s', P.Env drafts s s' → (overlay drafts s' key).filter matching = none →
      P.Safe accepts t post (f false) drafts s')
    (found : ∀ s' row, P.Env drafts s s' → overlay drafts s' key = some row → matching row = true →
      P.Safe accepts t post (f true) (drafts.put key none) s') :
    P.Safe accepts t post ((Tx.deleteWhere key matching).bind f) drafts s := by
  intro s' env
  rcases filtered : (overlay drafts s' key).filter matching with _ | row
  · exact absent s' env filtered
  · intro s'' later
    obtain ⟨stored,matched⟩ := Option.filter_eq_some_iff.mp filtered
    obtain ⟨moved,sees⟩ := later.locked
    have here := found s'' row (env.trans P moved) (sees.trans stored) matched
    rwa [← lock_put drafts key none] at here

/-- Where the change of a row is refused, it failed a constraint; where it is not, it passed. -/
theorem Safe.updateChecked {matching : ν key → Bool} {change : ν key → ν key} {f : Bool → Tx ν β γ}
    (refuses : ∀ s' row, P.Env drafts s s' → overlay drafts s' key = some row → matching row = true →
      accepts key (some row) (change row) = false → P.Refuses t ⟨key,some row,change row⟩)
    (absent : ∀ s', P.Env drafts s s' → (overlay drafts s' key).filter matching = none →
      P.Safe accepts t post (f false) drafts s')
    (found : ∀ s' row, P.Env drafts s s' → overlay drafts s' key = some row → matching row = true →
      accepts key (some row) (change row) = true →
      P.Safe accepts t post (f true) (drafts.put key (some (change row))) s') :
    P.Safe accepts t post ((Tx.updateWhere key matching change).bind f) drafts s := by
  intro s' env
  rcases filtered : (overlay drafts s' key).filter matching with _ | row
  · exact absent s' env filtered
  · intro s'' later
    obtain ⟨stored,matched⟩ := Option.filter_eq_some_iff.mp filtered
    obtain ⟨moved,sees⟩ := later.locked
    have now := env.trans P moved
    rw [overlay_lockFound,sees,stored]
    split
    · rename_i accepted
      have here := found s'' row now (sees.trans stored) matched accepted
      rwa [← lock_put drafts key] at here
    · rename_i refused
      exact refuses s'' row now (sees.trans stored) matched (Bool.eq_false_iff.mpr refused)

theorem Safe.updateWhere {matching : ν key → Bool} {change : ν key → ν key} {f : Bool → Tx ν β γ}
    (refuses : ∀ row, P.Refuses t ⟨key,some row,change row⟩)
    (absent : ∀ s', P.Env drafts s s' → (overlay drafts s' key).filter matching = none →
      P.Safe accepts t post (f false) drafts s')
    (found : ∀ s' row, P.Env drafts s s' → overlay drafts s' key = some row → matching row = true →
      P.Safe accepts t post (f true) (drafts.put key (some (change row))) s') :
    P.Safe accepts t post ((Tx.updateWhere key matching change).bind f) drafts s :=
  Safe.updateChecked (fun _ row _ _ _ _ => refuses row) absent fun s' row env stored matched _ =>
    found s' row env stored matched

/-- An insert goes through under a free key, with a row that passed its constraints. -/
theorem Safe.insertChecked {row : ν key} {f : Unit → Tx ν β γ}
    (invalid : accepts key none row = false → P.Refuses t ⟨key,none,row⟩)
    (conflict : ∀ s' stored, P.Env drafts s s' → overlay drafts s' key = some stored →
      P.Safe accepts t post (.refuse key row) drafts s')
    (next : ∀ s', P.Env drafts s s' → overlay drafts s' key = none → accepts key none row = true →
      P.Safe accepts t post (f ()) (drafts.put key (some row)) s') :
    P.Safe accepts t post ((Tx.insertNew key row).bind f) drafts s := by
  intro s' env
  split
  · rename_i accepted
    split
    · rename_i absent
      exact next s' env absent accepted
    · rename_i stored found
      exact conflict s' stored env found
  · rename_i refused
    exact invalid (Bool.eq_false_iff.mpr refused)

section Knowing

variable {known : List ((key : κ) × Option (ν key))} (knows : Knows drafts s known)

include knows

/-- The committed row under an inserted key is known from then on, whatever it is. -/
theorem Safe.insertSeen {row : ν key} {f : Unit → Tx ν β γ}
    (invalid : accepts key none row = false → P.Refuses t ⟨key,none,row⟩)
    (conflict : ∀ s' stored, P.Env drafts s s' → overlay drafts s' key = some stored →
      P.Safe accepts t post (.refuse key row) drafts s')
    (next : ∀ s', P.Env drafts s s' → overlay drafts s' key = none → accepts key none row = true →
      Knows (drafts.put key (some row)) s' (⟨key,s' key⟩ :: known) →
      P.Safe accepts t post (f ()) (drafts.put key (some row)) s') :
    P.Safe accepts t post ((Tx.insertNew key row).bind f) drafts s :=
  Safe.insertChecked invalid conflict fun s' env absent accepted => next s' env absent accepted (knows.wrote env key _ rfl _)

theorem Safe.removeSeen {next : Tx ν β γ}
    (next_ : ∀ s', P.Env drafts s s' → Knows (drafts.put key none) s' (⟨key,s' key⟩ :: known) →
      P.Safe accepts t post next (drafts.put key none) s') :
    P.Safe accepts t post (.remove key next) drafts s := fun s' env => next_ s' env (knows.wrote env key _ rfl _)

variable (sees : ∀ s', overlay drafts s' key = s' key)

include sees

/-- The insert of a key the transaction has not written: it was free, and stays so for the others. -/
theorem Safe.insertKnown {row : ν key} {f : Unit → Tx ν β γ}
    (invalid : accepts key none row = false → P.Refuses t ⟨key,none,row⟩)
    (conflict : ∀ s' stored, P.Env drafts s s' → s' key = some stored → P.Safe accepts t post (.refuse key row) drafts s')
    (next : ∀ s', P.Env drafts s s' → accepts key none row = true →
      Knows (drafts.put key (some row)) s' (⟨key,none⟩ :: known) →
      P.Safe accepts t post (f ()) (drafts.put key (some row)) s') :
    P.Safe accepts t post ((Tx.insertNew key row).bind f) drafts s :=
  Safe.insertSeen knows invalid (fun s' stored env found => conflict s' stored env ((sees s').symm.trans found))
    fun s' env absent accepted knows => next s' env accepted (((sees s').symm.trans absent) ▸ knows)

theorem Safe.lockKnown {matching : ν key → Bool} {f : Option (ν key) → Tx ν β γ}
    (absent : ∀ s', P.Env drafts s s' → (s' key).filter matching = none → P.Safe accepts t post (f none) drafts s')
    (found : ∀ s' row, P.Env drafts s s' → matching row = true → Knows (drafts.lock key) s' (⟨key,some row⟩ :: known) →
      P.Safe accepts t post (f (some row)) (drafts.lock key) s') :
    P.Safe accepts t post ((Tx.selectForUpdate key matching).bind f) drafts s :=
  Safe.selectForUpdate (fun s' env missed => absent s' env ((sees s') ▸ missed)) fun s' row env stored matched =>
    found s' row env matched (knows.locked env key (some row) ((sees s').symm.trans stored))

theorem Safe.updateKnown {matching : ν key → Bool} {change : ν key → ν key} {f : Bool → Tx ν β γ}
    (refuses : ∀ s' row, P.Env drafts s s' → s' key = some row → matching row = true →
      accepts key (some row) (change row) = false → P.Refuses t ⟨key,some row,change row⟩)
    (absent : ∀ s', P.Env drafts s s' → (s' key).filter matching = none → P.Safe accepts t post (f false) drafts s')
    (found : ∀ s' row, P.Env drafts s s' → matching row = true → accepts key (some row) (change row) = true →
      Knows (drafts.put key (some (change row))) s' (⟨key,some row⟩ :: known) →
      P.Safe accepts t post (f true) (drafts.put key (some (change row))) s') :
    P.Safe accepts t post ((Tx.updateWhere key matching change).bind f) drafts s :=
  Safe.updateChecked (fun s' row env stored => refuses s' row env ((sees s').symm.trans stored))
    (fun s' env missed => absent s' env ((sees s') ▸ missed)) fun s' row env stored matched accepted =>
      found s' row env matched accepted (knows.wrote env key (some row) ((sees s').symm.trans stored) _)

end Knowing

theorem Safe.writeChecked {row : ν key} {next : Tx ν β γ}
    (refuses : ∀ s', P.Env drafts s s' → P.Refuses t ⟨key,overlay drafts s' key,row⟩)
    (next_ : ∀ s', P.Env drafts s s' → accepts key (overlay drafts s' key) row = true →
      P.Safe accepts t post next (drafts.put key (some row)) s') :
    P.Safe accepts t post (.write key row next) drafts s := by
  intro s' env
  split
  · rename_i accepted
    exact next_ s' env accepted
  · exact refuses s' env

theorem Safe.select {f : Option (ν key) → Tx ν β γ}
    (next : ∀ s', P.Env drafts s s' → P.Safe accepts t post (f (overlay drafts s' key)) drafts s') :
    P.Safe accepts t post ((Tx.select key).bind f) drafts s := next

end Statements

/-- What the protocol asks of one transaction of a pool, by its phase. -/
def Fits (P : Protocol ν β α τ) (accepts : Constraints ν) (t : τ) (phase : Phase ν β α)
    (drafts : Drafts ν) (s : Store ν) : Prop :=
  match phase with
  | .running body => P.Safe accepts t (P.Commits t) body drafts s
  | .abandoned answer => drafts = Drafts.none ∧ P.Abandons t answer s
  | .refused refusal => drafts = Drafts.none ∧ P.Refuses t refusal
  | _ => drafts = Drafts.none

theorem Fits.stable {phase : Phase ν β α} {drafts : Drafts ν} {s s' : Store ν}
    (fits : P.Fits accepts t phase drafts s) (env : P.Env drafts s s') :
    P.Fits accepts t phase drafts s' := by
  cases phase with
  | running body => exact Safe.stable fits env
  | abandoned answer => exact ⟨fits.1,P.abandon_stable t answer s s' env.2.1 fits.2⟩
  | idle | committed | refused | crashed => exact fits

/-- Every transaction of the pool keeps to the protocol. -/
structure Sound (P : Protocol ν β α τ) (accepts : Constraints ν) (pool : Pool ν β α τ) : Prop where
  invariant : P.Invariant pool.committed
  fits : ∀ t, P.Fits accepts t (pool.phase t) (pool.drafts t) pool.committed

/-- Only transaction `t` moved, and for the others the committed rows moved by `Rely` at most. -/
theorem Sound.replace {pool pool' : Pool ν β α τ} (sound : P.Sound accepts pool)
    (invariant : P.Invariant pool'.committed)
    (own : P.Fits accepts t (pool'.phase t) (pool'.drafts t) pool'.committed)
    (others : ∀ u, u ≠ t → pool'.phase u = pool.phase u ∧ pool'.drafts u = pool.drafts u ∧
      P.Env (pool.drafts u) pool.committed pool'.committed) : P.Sound accepts pool' := by
  refine ⟨invariant,fun u => ?_⟩
  by_cases same : u = t
  · exact same ▸ own
  · obtain ⟨phase,drafts,env⟩ := others u same
    rw [phase,drafts]
    exact (sound.fits u).stable env

/-- A transaction goes on with the rest of its body, and the others stay where they are. -/
structure Continues (pool next : Pool ν β α τ) (t : τ) (rest : Tx ν β α) (drafts : Drafts ν) : Prop where
  committed : next.committed = pool.committed
  journal : next.journal = pool.journal
  phase : next.phase = Function.update pool.phase t (.running rest)
  own : next.drafts t = drafts
  others : ∀ u, u ≠ t → next.drafts u = pool.drafts u

theorem continues_setPhase (pool : Pool ν β α τ) (t : τ) (rest : Tx ν β α) :
    Continues pool (pool.setPhase t (.running rest)) t rest (pool.drafts t) := ⟨rfl,rfl,rfl,rfl,fun _ _ => rfl⟩

/-- Taking over one key that nobody else holds. -/
theorem continues_hold (pool : Pool ν β α τ) (t : τ) (rest : Tx ν β α) (key : κ) (drafts : Drafts ν)
    (free : pool.heldByOther t key = false) (extends_ : ∀ other, other ≠ key → drafts other = pool.drafts t other) :
    Continues pool ((pool.hold t key drafts).setPhase t (.running rest)) t rest drafts := by
  refine ⟨rfl,rfl,rfl,?_,fun u different => Pool.drafts_hold_other pool t u key drafts different free⟩
  rw [Pool.drafts_setPhase,Pool.drafts_hold_self]
  funext other
  by_cases same : other = key
  · subst same
    simp
  · simp [same,extends_ other same]

/-- How the next statement of a safe body can leave the pool. -/
inductive Issues (P : Protocol ν β α τ) (accepts : Constraints ν) (t : τ) (post : α → Drafts ν → Store ν → Prop)
    (pool : Pool ν β α τ) : Pool ν β α τ → Prop where
  | committed (value : α) (holds : post value (pool.drafts t) pool.committed) :
      Issues P accepts t post pool (pool.commit t value)
  | abandoned (answer : β) (allowed : P.Abandons t answer pool.committed) :
      Issues P accepts t post pool (pool.finish t (.abandoned answer))
  | refused (refusal : Refusal ν) (allowed : P.Refuses t refusal) :
      Issues P accepts t post pool (pool.finish t (.refused refusal))
  | continued (next : Pool ν β α τ) (rest : Tx ν β α) (drafts : Drafts ν) (goes : Continues pool next t rest drafts)
      (safe : P.Safe accepts t post rest drafts pool.committed) : Issues P accepts t post pool next

theorem Safe.issue {post : α → Drafts ν → Store ν → Prop} {pool next : Pool ν β α τ} {body : Tx ν β α}
    (safe : P.Safe accepts t post body (pool.drafts t) pool.committed) (valid : P.Invariant pool.committed)
    (issued : pool.issue accepts t body = some next) : P.Issues accepts t post pool next := by
  have env := Env.refl P (pool.drafts t) valid
  cases body with
  | done value =>
    obtain rfl := Option.some.inj issued
    exact .committed value (safe _ env)
  | abandon answer =>
    obtain rfl := Option.some.inj issued
    exact .abandoned answer (safe _ env)
  | refuse key row =>
    obtain rfl := Option.some.inj issued
    exact .refused _ (safe _ env)
  | read key rest =>
    obtain rfl := Option.some.inj issued
    exact .continued _ _ _ (continues_setPhase pool t _) (safe _ env)
  | lock key matching rest =>
    have here := safe _ env
    rw [Pool.issue] at issued
    rcases found : (pool.view t key).filter matching with _ | row
    · simp only [found,Option.some.injEq] at issued
      subst issued
      rw [show (overlay (pool.drafts t) pool.committed key).filter matching = none from found] at here
      exact .continued _ _ _ (continues_setPhase pool t _) here
    · simp only [found,Option.ite_none_left_eq_some,Option.some.injEq,Bool.not_eq_true] at issued
      obtain ⟨free,rfl⟩ := issued
      rw [show (overlay (pool.drafts t) pool.committed key).filter matching = some row from found] at here
      exact .continued _ _ _
        (continues_hold pool t _ key _ free fun other different => by simp [Drafts.lock,different]) here
  | insert key row rest =>
    have here := safe _ env
    rw [Pool.issue] at issued
    by_cases accepted : accepts key none row
    · rw [if_pos accepted] at here
      simp only [accepted,if_true,Option.ite_none_left_eq_some] at issued
      obtain ⟨_,issued⟩ := issued
      rcases found : pool.view t key with _ | stored
      · simp only [found,Option.ite_none_left_eq_some,Option.some.injEq,Bool.not_eq_true] at issued
        obtain ⟨free,rfl⟩ := issued
        rw [show overlay (pool.drafts t) pool.committed key = none from found] at here
        exact .continued _ _ _
          (continues_hold pool t _ key _ free fun other different => by simp [Drafts.put,different]) here
      · simp only [found,Option.some.injEq] at issued
        subst issued
        rw [show overlay (pool.drafts t) pool.committed key = some stored from found] at here
        exact .continued _ _ _ (continues_setPhase pool t _) here
    · rw [if_neg accepted] at here
      simp only [accepted,if_false,Option.some.injEq,Bool.false_eq_true] at issued
      subst issued
      exact .refused _ here
  | write key row rest =>
    have here := safe _ env
    rw [Pool.issue] at issued
    simp only [Option.ite_none_left_eq_some,Bool.not_eq_true] at issued
    obtain ⟨free,issued⟩ := issued
    by_cases accepted : accepts key (pool.view t key) row
    · rw [if_pos accepted] at issued
      rw [show overlay (pool.drafts t) pool.committed key = pool.view t key from rfl,if_pos accepted] at here
      obtain rfl := Option.some.inj issued
      exact .continued _ _ _
        (continues_hold pool t _ key _ free fun other different => by simp [Drafts.put,different]) here
    · rw [if_neg accepted] at issued
      rw [show overlay (pool.drafts t) pool.committed key = pool.view t key from rfl,if_neg accepted] at here
      obtain rfl := Option.some.inj issued
      exact .refused _ here
  | remove key rest =>
    rw [Pool.issue] at issued
    simp only [Option.ite_none_left_eq_some,Bool.not_eq_true,Option.some.injEq] at issued
    obtain ⟨free,rfl⟩ := issued
    exact .continued _ _ _
      (continues_hold pool t _ key _ free fun other different => by simp [Drafts.put,different]) (safe _ env)

theorem Sound.continues {pool next : Pool ν β α τ} (sound : P.Sound accepts pool) {rest : Tx ν β α} {drafts : Drafts ν}
    (goes : Continues pool next t rest drafts) (safe : P.Safe accepts t (P.Commits t) rest drafts pool.committed) :
    P.Sound accepts next := by
  refine sound.replace (t := t) (goes.committed ▸ sound.invariant) ?_ fun u different => ⟨?_,goes.others u different,?_⟩
  · rw [goes.phase,Function.update_self,goes.own,goes.committed]
    exact safe
  · rw [goes.phase,Function.update_of_ne different]
  · rw [goes.committed]
    exact Env.refl P _ sound.invariant

theorem Sound.finish {pool : Pool ν β α τ} (sound : P.Sound accepts pool) (phase : Phase ν β α)
    (own : P.Fits accepts t phase Drafts.none pool.committed) :
    P.Sound accepts (pool.finish t phase) := by
  refine sound.replace (t := t) sound.invariant ?_ fun u different => ?_
  · simpa [Pool.drafts_finish_self] using own
  · exact ⟨by simp [different],Pool.drafts_finish_other pool t u phase different,
      Env.refl P _ sound.invariant⟩

/-- The commit of a safe transaction is one its protocol allows. -/
theorem Sound.commits {pool : Pool ν β α τ} (sound : P.Sound accepts pool) (value : α)
    (runs : pool.phase t = .running (.done value)) :
    P.Commits t value (pool.drafts t) pool.committed := by
  have fits := sound.fits t
  rw [runs] at fits
  exact fits _ (Env.refl P _ sound.invariant)

theorem Sound.commit {pool : Pool ν β α τ} (sound : P.Sound accepts pool) (value : α)
    (allowed : P.Commits t value (pool.drafts t) pool.committed) : P.Sound accepts (pool.commit t value) := by
  have invariant := P.commit_invariant _ _ _ _ sound.invariant allowed
  refine sound.replace (t := t) invariant ?_ fun u different => ⟨?_,?_,invariant,?_,?_⟩
  · simp [Fits,Pool.drafts_finish_self]
  · simp [different]
  · exact Pool.drafts_finish_other pool t u (.committed value) different
  · exact P.commit_rely _ _ _ _ sound.invariant allowed
  · exact fun key held => Pool.view_of_held_by_other pool t u key different held

theorem Sound.issue {pool next : Pool ν β α τ} (sound : P.Sound accepts pool) (body : Tx ν β α)
    (runs : pool.phase t = .running body) (issued : pool.issue accepts t body = some next) :
    P.Sound accepts next := by
  have safe := sound.fits t
  rw [runs] at safe
  cases Safe.issue safe sound.invariant issued with
  | committed value allowed => exact sound.commit value allowed
  | abandoned answer allowed => exact sound.finish _ ⟨rfl,allowed⟩
  | refused refusal allowed => exact sound.finish _ ⟨rfl,allowed⟩
  | continued next rest drafts goes safe => exact sound.continues goes safe

/-- Every program is safe from any committed rows the invariant allows. -/
def Keeps (P : Protocol ν β α τ) (accepts : Constraints ν) (program : τ → Tx ν β α) : Prop :=
  ∀ t s, P.Invariant s → P.Safe accepts t (P.Commits t) (program t) Drafts.none s

theorem Sound.step {pool next : Pool ν β α τ} {program : τ → Tx ν β α} (keeps : P.Keeps accepts program)
    (sound : P.Sound accepts pool) (action : Action τ)
    (stepped : pool.step accepts program action = some next) : P.Sound accepts next := by
  cases action with
  | start t =>
    simp only [Pool.step] at stepped
    split at stepped
    · rename_i idle
      obtain rfl := Option.some.inj stepped
      have free := sound.fits t
      rw [idle] at free
      refine sound.continues (continues_setPhase pool t _) ?_
      rw [show pool.drafts t = Drafts.none from free]
      exact keeps t _ sound.invariant
    · simp at stepped
  | advance t =>
    simp only [Pool.step] at stepped
    split at stepped
    · exact sound.issue _ ‹_› stepped
    · simp at stepped
  | crash t =>
    simp only [Pool.step] at stepped
    split at stepped
    · obtain rfl := Option.some.inj stepped
      exact sound.finish (t := t) .crashed rfl
    · simp at stepped

theorem sound_initial (store : Store ν) (valid : P.Invariant store) :
    P.Sound accepts (Pool.initial store) := ⟨valid,fun _ => rfl⟩

theorem Keeps.sound {program : τ → Tx ν β α} (keeps : P.Keeps accepts program) (store : Store ν)
    (valid : P.Invariant store) (pool : Pool ν β α τ)
    (reached : Pool.Reachable accepts program store pool) : P.Sound accepts pool := by
  obtain ⟨actions,ran⟩ := reached
  exact StateMachine.run_invariant _ (P.Sound accepts) (fun _ action _ sound => sound.step keeps action)
    _ actions pool (sound_initial store valid) ran

/-- What the commits keep about the rows and the journal together. -/
theorem Keeps.journal {program : τ → Tx ν β α} (keeps : P.Keeps accepts program) (store : Store ν)
    (valid : P.Invariant store) (Kept : Store ν → List (Commit ν α τ) → Prop) (start : Kept store [])
    (commit : ∀ s journal t value drafts, P.Invariant s → Kept s journal → P.Commits t value drafts s →
      Kept (overlay drafts s) (journal ++ [⟨t,value,drafts⟩]))
    (pool : Pool ν β α τ) (reached : Pool.Reachable accepts program store pool) :
    Kept pool.committed pool.journal := by
  obtain ⟨actions,ran⟩ := reached
  refine (StateMachine.run_invariant _
    (fun pool : Pool ν β α τ => P.Sound accepts pool ∧ Kept pool.committed pool.journal) ?_ _ actions pool
    ⟨sound_initial store valid,start⟩ ran).2
  rintro pool action next ⟨sound,kept⟩ stepped
  refine ⟨sound.step keeps action stepped,?_⟩
  rcases Pool.step_commits accepts program pool next action stepped with
    ⟨rows,journal,_⟩ | ⟨t,value,runs,rfl⟩
  · rw [rows,journal]
    exact kept
  · exact commit _ _ t value _ sound.invariant kept (sound.commits value runs)

/-- From one pool to a later one the committed rows move by `Rely`. -/
theorem Keeps.rely {program : τ → Tx ν β α} (keeps : P.Keeps accepts program) (pool later : Pool ν β α τ)
    (sound : P.Sound accepts pool) (actions : List (Action τ))
    (ran : StateMachine.run (Pool.step accepts program) pool actions = some later) :
    P.Rely pool.committed later.committed := by
  refine StateMachine.run_relation _ (P.Sound accepts)
    (fun pool later => P.Rely pool.committed later.committed) (fun pool => P.rely_refl _)
    (fun _ _ _ => P.rely_trans _ _ _) (fun _ action _ sound => sound.step keeps action) ?_ pool actions later
    sound ran
  intro pool action next sound stepped
  rcases Pool.step_commits accepts program pool next action stepped with ⟨rows,_,_⟩ | ⟨t,value,runs,rfl⟩
  · exact rows ▸ P.rely_refl _
  · exact P.commit_rely t value _ _ sound.invariant (sound.commits value runs)

/-- Every commit between two moments was one the protocol allows, of rows that lie between theirs. -/
theorem Keeps.commits_between {program : τ → Tx ν β α} (keeps : P.Keeps accepts program) (pool later : Pool ν β α τ)
    (sound : P.Sound accepts pool) (actions : List (Action τ))
    (ran : StateMachine.run (Pool.step accepts program) pool actions = some later) :
    ∃ more, later.journal = pool.journal ++ more ∧ ∀ entry ∈ more, ∃ s, P.Invariant s ∧ P.Rely pool.committed s ∧
      P.Commits entry.transaction entry.value entry.drafts s ∧ P.Rely (overlay entry.drafts s) later.committed := by
  have kept := StateMachine.run_invariant (Pool.step accepts program)
    (fun now : Pool ν β α τ => P.Sound accepts now ∧ P.Rely pool.committed now.committed ∧
      ∃ more, now.journal = pool.journal ++ more ∧ ∀ entry ∈ more, ∃ s, P.Invariant s ∧ P.Rely pool.committed s ∧
        P.Commits entry.transaction entry.value entry.drafts s ∧ P.Rely (overlay entry.drafts s) now.committed) ?_
    pool actions later ⟨sound,P.rely_refl _,[],(List.append_nil _).symm,by simp⟩ ran
  · exact kept.2.2
  rintro now action next ⟨sound,rely,more,journal,allowed⟩ stepped
  refine ⟨sound.step keeps action stepped,?_⟩
  rcases Pool.step_commits accepts program now next action stepped with ⟨rows,same,_⟩ | ⟨t,value,runs,rfl⟩
  · rw [rows]
    exact ⟨rely,more,same ▸ journal,allowed⟩
  · have commits := sound.commits value runs
    have moved := P.commit_rely t value _ _ sound.invariant commits
    refine ⟨P.rely_trans _ _ _ rely moved,more ++ [⟨t,value,now.drafts t⟩],by simp [journal],?_⟩
    intro entry member
    rcases List.mem_append.mp member with old | new
    · obtain ⟨s,valid,before,own,after⟩ := allowed entry old
      exact ⟨s,valid,before,own,P.rely_trans _ _ _ after moved⟩
    · obtain rfl := List.mem_singleton.mp new
      exact ⟨now.committed,sound.invariant,rely,commits,P.rely_refl _⟩

section Alone

/-- One transaction of a pool keeps to the protocol for as long as the commits of the others do; what is
committed at the moment need not satisfy the invariant before its next statement. -/
def Follows (P : Protocol ν β α τ) (accepts : Constraints ν) (t : τ) (post : α → Drafts ν → Store ν → Prop)
    (pool : Pool ν β α τ) : Prop :=
  match pool.phase t with
  | .running body => ∀ s, P.Env (pool.drafts t) pool.committed s → P.Safe accepts t post body (pool.drafts t) s
  | _ => pool.drafts t = Drafts.none

variable {post : α → Drafts ν → Store ν → Prop} {program : τ → Tx ν β α} {pool next : Pool ν β α τ}

theorem follows_initial (store : Store ν) : P.Follows accepts t post (Pool.initial store) := rfl

/-- A transaction that is not running follows any protocol that holds nothing of it. -/
theorem follows_iff (still : ∀ body, pool.phase t ≠ .running body) : P.Follows accepts t post pool ↔ pool.drafts t = Drafts.none := by
  rw [Follows]
  cases phase : pool.phase t with
  | running body => exact absurd phase (still body)
  | idle | committed | abandoned | refused | crashed => exact Iff.rfl

/-- A step of another transaction, whose commit leaves the rows related as `Rely` has it. -/
theorem Follows.other (follows : P.Follows accepts t post pool) (action : Action τ) (different : t ≠ action.transaction)
    (stepped : pool.step accepts program action = some next) (rely : P.Rely pool.committed next.committed) :
    P.Follows accepts t post next := by
  obtain ⟨phase,drafts⟩ := Pool.step_other accepts program pool next action t different stepped
  rw [Follows,phase,drafts]
  rw [Follows] at follows
  cases runs : pool.phase t with
  | running body =>
    rw [runs] at follows
    intro s env
    refine follows s ⟨env.1,P.rely_trans _ _ _ rely env.2.1,fun key held => (env.2.2 key held).trans ?_⟩
    rcases Pool.step_advances accepts program pool next action stepped with ⟨rows,_,_⟩ | ⟨u,value,rfl,_,rfl⟩
    · rw [rows]
    · exact Pool.view_of_held_by_other pool u t key different held
  | idle | committed | abandoned | refused | crashed =>
    rw [runs] at follows
    exact follows

variable (program) in
/-- A step of the transaction itself: it goes on as its body says, or ends; a commit satisfies `post`. -/
theorem Follows.own (follows : P.Follows accepts t post pool)
    (starts : ∀ s, P.Invariant s → P.Safe accepts t post (program t) Drafts.none s)
    (valid : ∀ body, pool.phase t = .running body → P.Invariant pool.committed) (action : Action τ)
    (same : action.transaction = t) (stepped : pool.step accepts program action = some next) :
    P.Follows accepts t post next ∧ (next.committed = pool.committed ∧ next.journal = pool.journal ∨
      ∃ value, next = pool.commit t value ∧ post value (pool.drafts t) pool.committed) := by
  rw [Follows] at follows
  subst same
  cases action with
  | start t =>
    simp only [Pool.step] at stepped
    split at stepped
    · rename_i idle
      obtain rfl := Option.some.inj stepped
      rw [show (Action.start t).transaction = t from rfl,idle] at follows
      refine ⟨?_,Or.inl ⟨rfl,rfl⟩⟩
      simp only [Follows,Action.transaction,Pool.phase_setPhase,Function.update_self,Pool.drafts_setPhase,
        Pool.committed_setPhase,show pool.drafts t = Drafts.none from follows]
      exact fun s env => starts s env.1
    · simp at stepped
  | crash t =>
    simp only [Pool.step] at stepped
    split at stepped
    · obtain rfl := Option.some.inj stepped
      refine ⟨?_,Or.inl ⟨rfl,rfl⟩⟩
      simp [Follows,Action.transaction,Pool.drafts_finish_self]
    · simp at stepped
  | advance t =>
    simp only [Pool.step] at stepped
    split at stepped
    · rename_i body runs
      have valid := valid body runs
      rw [show (Action.advance t).transaction = t from rfl,runs] at follows
      have safe := follows _ (Env.refl P _ valid)
      rw [Follows,show (Action.advance t).transaction = t from rfl]
      cases Safe.issue safe valid stepped with
      | committed value holds =>
        refine ⟨?_,Or.inr ⟨value,rfl,holds⟩⟩
        simp [Pool.drafts_finish_self]
      | abandoned | refused =>
        refine ⟨?_,Or.inl ⟨rfl,rfl⟩⟩
        simp [Pool.drafts_finish_self]
      | continued next rest drafts goes safe =>
        refine ⟨?_,Or.inl ⟨goes.committed,goes.journal⟩⟩
        rw [goes.phase,Function.update_self,goes.own,goes.committed]
        exact fun s env => safe.stable env
    · simp at stepped

end Alone

section Under

/-- What holds of the rows at one moment and stays true under `Rely`, with what one transaction then has
to keep to beyond the protocol. -/
structure Promise (P : Protocol ν β α τ) (t : τ) where
  Fact : Store ν → Prop
  Commits : α → Drafts ν → Store ν → Prop
  Abandons : β → Store ν → Prop
  Refuses : Refusal ν → Prop
  stable : ∀ s s', P.Rely s s' → Fact s → Fact s'
  abandon_stable : ∀ b s s', P.Rely s s' → Abandons b s → Abandons b s'

variable (promise : Promise P t)

/-- The protocol from the moment on at which the fact holds. -/
def Promise.protocol : Protocol ν β α τ where
  Invariant s := P.Invariant s ∧ promise.Fact s
  Rely := P.Rely
  Commits u value drafts s := P.Commits u value drafts s ∧ (u = t → promise.Commits value drafts s)
  Abandons u answer s := P.Abandons u answer s ∧ (u = t → promise.Abandons answer s)
  Refuses u refusal := P.Refuses u refusal ∧ (u = t → promise.Refuses refusal)
  rely_refl := P.rely_refl
  rely_trans := P.rely_trans
  commit_invariant u value drafts s valid allowed :=
    ⟨P.commit_invariant u value drafts s valid.1 allowed.1,
      promise.stable _ _ (P.commit_rely u value drafts s valid.1 allowed.1) valid.2⟩
  commit_rely u value drafts s valid allowed := P.commit_rely u value drafts s valid.1 allowed.1
  abandon_stable u answer s s' rely abandons :=
    ⟨P.abandon_stable u answer s s' rely abandons.1,fun same => promise.abandon_stable answer s s' rely (abandons.2 same)⟩

theorem Promise.env {drafts : Drafts ν} {s s' : Store ν} (env : promise.protocol.Env drafts s s') : P.Env drafts s s' :=
  ⟨env.1.1,env.2⟩

/-- The other transactions keep to the protocol as before. -/
theorem Promise.others {u : τ} (different : u ≠ t) {post after : γ → Drafts ν → Store ν → Prop} {body : Tx ν β γ}
    {drafts : Drafts ν} {s : Store ν} (safe : P.Safe accepts u post body drafts s)
    (implies : ∀ value later s', post value later s' → after value later s') :
    promise.protocol.Safe accepts u after body drafts s := by
  induction body generalizing drafts s with
  | done value => exact fun s' env => implies _ _ _ (safe s' (promise.env env))
  | abandon => exact fun s' env => ⟨safe s' (promise.env env),fun same => absurd same different⟩
  | refuse => exact fun s' env => ⟨safe s' (promise.env env),fun same => absurd same different⟩
  | read key next ih => exact fun s' env => ih _ (safe s' (promise.env env))
  | lock key matching next ih => exact fun s' env => ih _ (safe s' (promise.env env))
  | insert key row next ih =>
    intro s' env
    have here := safe s' (promise.env env)
    split at here
    · rw [if_pos ‹_›]
      split at here
      · exact ih _ here
      · exact ih _ here
    · rw [if_neg ‹_›]
      exact ⟨here,fun same => absurd same different⟩
  | write key row next ih =>
    intro s' env
    have here := safe s' (promise.env env)
    split at here
    · rw [if_pos ‹_›]
      exact ih here
    · rw [if_neg ‹_›]
      exact ⟨here,fun same => absurd same different⟩
  | remove key next ih => exact fun s' env => ih (safe s' (promise.env env))

/-- What a body keeps to under the protocol and what it keeps of its promise, together. -/
theorem Promise.both {post after : γ → Drafts ν → Store ν → Prop} {body : Tx ν β γ} {drafts : Drafts ν} {s : Store ν}
    (safe : P.Safe accepts t post body drafts s) (kept : promise.protocol.Safe accepts t after body drafts s) :
    promise.protocol.Safe accepts t (fun value later s' => post value later s' ∧ after value later s') body drafts s := by
  induction body generalizing drafts s with
  | done value => exact fun s' env => ⟨safe s' (promise.env env),kept s' env⟩
  | abandon => exact kept
  | refuse => exact kept
  | read key next ih => exact fun s' env => ih _ (safe s' (promise.env env)) (kept s' env)
  | lock key matching next ih => exact fun s' env => ih _ (safe s' (promise.env env)) (kept s' env)
  | insert key row next ih =>
    intro s' env
    have here := safe s' (promise.env env)
    have there := kept s' env
    by_cases accepted : accepts key none row
    · rw [if_pos accepted] at here there ⊢
      cases found : overlay drafts s' key with
      | none =>
        rw [found] at here there
        exact ih _ here there
      | some stored =>
        rw [found] at here there
        exact ih _ here there
    · rw [if_neg accepted] at there ⊢
      exact there
  | write key row next ih =>
    intro s' env
    have here := safe s' (promise.env env)
    have there := kept s' env
    by_cases accepted : accepts key (overlay drafts s' key) row
    · rw [if_pos accepted] at here there ⊢
      exact ih here there
    · rw [if_neg accepted] at there ⊢
      exact there
  | remove key next ih => exact fun s' env => ih (safe s' (promise.env env)) (kept s' env)

variable {program : τ → Tx ν β α} (keeps : P.Keeps accepts program)
  (kept : ∀ s, promise.protocol.Invariant s → promise.protocol.Safe accepts t promise.Commits (program t) Drafts.none s)

include keeps kept

theorem Keeps.promising : promise.protocol.Keeps accepts program := by
  intro u s valid
  by_cases same : u = t
  · subst same
    exact (promise.both (keeps u s valid.1) (kept s valid)).weaken fun _ _ _ _ both => ⟨both.1,fun _ => both.2⟩
  · exact promise.others same (keeps u s valid.1) fun _ _ _ commits => ⟨commits,fun own => absurd own same⟩

omit keeps kept in
/-- From the moment on at which the fact holds, a transaction that has not started yet has promised. -/
theorem Sound.promised {pool : Pool ν β α τ} (sound : P.Sound accepts pool) (fact : promise.Fact pool.committed)
    (idle : pool.phase t = .idle) : promise.protocol.Sound accepts pool := by
  refine ⟨⟨sound.invariant,fact⟩,fun u => ?_⟩
  have fits := sound.fits u
  by_cases same : u = t
  · subst same
    rw [idle] at fits ⊢
    exact fits
  · cases phase : pool.phase u with
    | running body =>
      rw [phase] at fits
      exact promise.others same fits fun _ _ _ commits => ⟨commits,fun own => absurd own same⟩
    | abandoned answer =>
      rw [phase] at fits
      exact ⟨fits.1,fits.2,fun own => absurd own same⟩
    | refused refusal =>
      rw [phase] at fits
      exact ⟨fits.1,fits.2,fun own => absurd own same⟩
    | idle | committed | crashed =>
      rw [phase] at fits
      exact fits

/-- However the run goes on, the transaction ends as it promised. -/
theorem Keeps.promised {store : Store ν} {pool later : Pool ν β α τ} (reached : Pool.Reachable accepts program store pool)
    (sound : P.Sound accepts pool) (fact : promise.Fact pool.committed) (idle : pool.phase t = .idle)
    (actions : List (Action τ)) (ran : StateMachine.run (Pool.step accepts program) pool actions = some later) :
    (∀ value, later.phase t = .committed value → ∃ drafts s, promise.Commits value drafts s) ∧
    (∀ answer, later.phase t = .abandoned answer → promise.Abandons answer later.committed) ∧
    ∀ refusal, later.phase t = .refused refusal → promise.Refuses refusal := by
  have promising := keeps.promising promise kept
  have sound := sound.promised promise fact idle
  have fits := (StateMachine.run_invariant _ _ (fun _ action _ sound => sound.step promising action) pool actions later
    sound ran : promise.protocol.Sound accepts later).fits t
  refine ⟨fun value ended => ?_,fun answer ended => ?_,fun refusal ended => ?_⟩
  · obtain ⟨more,journal,allowed⟩ := promising.commits_between pool later sound actions ran
    obtain ⟨entry,member,own,rfl⟩ := Pool.journal_of_committed (reached.run actions ran) t value ended
    rcases List.mem_append.mp (journal ▸ member) with before | after
    · have phase := Pool.committed_of_journal reached entry before
      rw [own,idle] at phase
      cases phase
    · obtain ⟨s,_,_,commits,_⟩ := allowed entry after
      exact ⟨entry.drafts,s,commits.2 own⟩
  · rw [ended] at fits
    exact fits.2.2 rfl
  · rw [ended] at fits
    exact fits.2.2 rfl

end Under

end Protocol
end Transaction
