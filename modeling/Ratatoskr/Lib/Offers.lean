import Ratatoskr.Lib.Protocol

/-! The rows that the statements of a body offer to a table. Whatever a run of a pool stores was there before,
or one of its transactions has offered it. -/
set_option linter.unusedSectionVars false

namespace Transaction

variable {ι κ τ : Type} {μ : ι → Type} {ν : κ → Type} {α β γ δ : Type}

/-- Some path through the body comes to a statement that inserts or writes the row. -/
def Offers (key : κ) (row : ν key) : Tx ν β α → Prop
  | .done _ | .abandon _ | .refuse _ _ => False
  | .read _ next => ∃ found, Offers key row (next found)
  | .lock _ _ next => ∃ found, Offers key row (next found)
  | .insert other offered next => (⟨other,offered⟩ : Sigma ν) = ⟨key,row⟩ ∨ ∃ fresh, Offers key row (next fresh)
  | .write other offered next => (⟨other,offered⟩ : Sigma ν) = ⟨key,row⟩ ∨ Offers key row next
  | .remove _ next => Offers key row next

section Rules

variable {key : κ} {row : ν key} {body : Tx ν β α}

theorem offers_bind {f : α → Tx ν β γ} :
    Offers key row (body.bind f) → Offers key row body ∨ ∃ value, Offers key row (f value) := by
  induction body with
  | done value => exact fun offered => Or.inr ⟨value,offered⟩
  | abandon | refuse => exact fun offered => offered.elim
  | read other next ih => exact fun ⟨found,offered⟩ => (ih found offered).imp_left fun first => ⟨found,first⟩
  | lock other matching next ih => exact fun ⟨found,offered⟩ => (ih found offered).imp_left fun first => ⟨found,first⟩
  | insert other new next ih =>
    rintro (same | ⟨fresh,offered⟩)
    · exact Or.inl (Or.inl same)
    · exact (ih fresh offered).imp_left fun first => Or.inr ⟨fresh,first⟩
  | write other new next ih =>
    rintro (same | offered)
    · exact Or.inl (Or.inl same)
    · exact (ih offered).imp_left Or.inr
  | remove other next ih => exact ih

theorem offers_adapt {answer : β → γ} {result : α → δ} :
    Offers key row (body.adapt answer result) ↔ Offers key row body := by
  induction body with
  | done | abandon | refuse => exact Iff.rfl
  | read other next ih => exact exists_congr ih
  | lock other matching next ih => exact exists_congr ih
  | insert other new next ih => exact or_congr Iff.rfl (exists_congr ih)
  | write other new next ih => exact or_congr Iff.rfl ih
  | remove other next ih => exact ih

/-- A body over some of the tables offers the others nothing. -/
theorem offers_widen {answer : β → γ} :
    Offers (ν := Beside μ ν) (.inr key) row (body.widen answer) → Offers key row body := by
  have injected {other : κ} {new : ν other} (same : (⟨.inr other,new⟩ : Sigma (Beside μ ν)) = ⟨.inr key,row⟩) :
      (⟨other,new⟩ : Sigma ν) = ⟨key,row⟩ := by
    obtain ⟨keys,rows⟩ := Sigma.mk.inj same
    obtain rfl := Sum.inr.inj keys
    rw [eq_of_heq rows]
  induction body with
  | done | abandon | refuse => exact id
  | read other next ih => exact fun ⟨found,offered⟩ => ⟨found,ih found offered⟩
  | lock other matching next ih => exact fun ⟨found,offered⟩ => ⟨found,ih found offered⟩
  | insert other new next ih => exact Or.imp injected fun ⟨fresh,offered⟩ => ⟨fresh,ih fresh offered⟩
  | write other new next ih => exact Or.imp injected ih
  | remove other next ih => exact ih

/-- A body offers rows to the keys of its statements only. -/
theorem offers_within (keys : κ → Prop) : Within keys body → Offers key row body → keys key := by
  induction body with
  | done | abandon | refuse => exact fun _ offered => offered.elim
  | read other next ih => exact fun within ⟨found,offered⟩ => ih found (within.2 found) offered
  | lock other matching next ih => exact fun within ⟨found,offered⟩ => ih found (within.2 found) offered
  | insert other new next ih =>
    rintro within (same | ⟨fresh,offered⟩)
    · exact (Sigma.mk.inj same).1 ▸ within.1
    · exact ih fresh (within.2 fresh) offered
  | write other new next ih =>
    rintro within (same | offered)
    · exact (Sigma.mk.inj same).1 ▸ within.1
    · exact ih within.2 offered
  | remove other next ih => exact fun within offered => ih within.2 offered

theorem offers_insertUnlessConflict {offered : ν key} :
    Offers key row (Tx.insertUnlessConflict key offered : Tx ν β _) → row = offered := by
  rintro (same | ⟨_,nothing⟩)
  · exact (eq_of_heq (Sigma.mk.inj same).2).symm
  · exact nothing.elim

end Rules

section Runs

variable [DecidableEq κ] [DecidableEq τ] {accepts : Constraints ν} {program : τ → Tx ν β α} {key : κ}

/-- Each transaction publishes what it has offered, and nothing is promised to the others. -/
def offering (program : τ → Tx ν β α) (key : κ) (store : Store ν) : Protocol ν β α τ where
  Invariant rows := ∀ row, rows key = some row → store key = some row ∨ ∃ t, Offers key row (program t)
  Rely _ _ := True
  Commits t _ drafts _ := ∀ row, drafts key = some (.written (some row)) → Offers key row (program t)
  Abandons _ _ _ := True
  Refuses _ _ := True
  rely_refl _ := trivial
  rely_trans _ _ _ _ _ := trivial
  commit_invariant t _ drafts rows known commits row stored := by
    by_cases own : drafts key = some (.written (some row))
    · exact Or.inr ⟨t,commits row own⟩
    · refine known row ?_
      unfold overlay at stored
      split at stored
      · exact absurd (stored ▸ ‹_›) own
      · exact stored
  commit_rely _ _ _ _ _ _ := trivial
  abandon_stable _ _ _ _ _ _ := trivial

theorem safe_offering {store rows : Store ν} {t : τ} {body : Tx ν β α} {drafts : Drafts ν}
    (rest : ∀ row, Offers key row body → Offers key row (program t))
    (held : ∀ row, drafts key = some (.written (some row)) → Offers key row (program t)) :
    (offering program key store).Safe accepts t ((offering program key store).Commits t) body drafts rows := by
  -- what a statement writes to another key is no concern, and what it writes to this one was offered
  have wrote {drafts : Drafts ν} {other : κ} {new : Option (ν other)}
      (held : ∀ row, drafts key = some (.written (some row)) → Offers key row (program t))
      (offered : ∀ row, new = some row → ∀ row', (⟨other,row⟩ : Sigma ν) = ⟨key,row'⟩ → Offers key row' (program t))
      (row : ν key) (now : drafts.put other new key = some (.written (some row))) : Offers key row (program t) := by
    by_cases same : key = other
    · subst same
      rw [put_self] at now
      cases now
      exact offered row rfl row rfl
    · exact held row ((put_of_ne drafts other key new same).symm.trans now)
  induction body generalizing drafts rows with
  | done value => exact fun _ _ => held
  | abandon | refuse => exact fun _ _ => trivial
  | read other next ih => exact fun _ _ => ih _ (fun row offered => rest row ⟨_,offered⟩) held
  | lock other matching next ih =>
    refine fun _ _ => ih _ (fun row offered => rest row ⟨_,offered⟩) fun row now => held row ?_
    unfold Drafts.lockFound at now
    split at now
    · by_cases same : key = other
      · subst same
        cases before : drafts key <;> simp_all [Drafts.lock]
      · rwa [lock_of_ne drafts other key same] at now
    · exact now
  | insert other new next ih =>
    intro later _
    split
    · split
      · refine ih _ (fun row offered => rest row (Or.inr ⟨_,offered⟩)) (wrote held ?_)
        rintro _ ⟨⟩ row same
        exact rest row (Or.inl same)
      · exact ih _ (fun row offered => rest row (Or.inr ⟨_,offered⟩)) held
    · trivial
  | write other new next ih =>
    intro later _
    split
    · refine ih (fun row offered => rest row (Or.inr offered)) (wrote held ?_)
      rintro _ ⟨⟩ row same
      exact rest row (Or.inl same)
    · trivial
  | remove other next ih =>
    refine fun _ _ => ih (fun row offered => rest row offered) (wrote held ?_)
    rintro _ ⟨⟩

/-- A stored row is as old as the run, or some transaction has offered it. -/
theorem stored_offered {store : Store ν} {pool : Pool ν β α τ} (reached : Pool.Reachable accepts program store pool)
    {row : ν key} (stored : pool.committed key = some row) : store key = some row ∨ ∃ t, Offers key row (program t) := by
  have keeps : (offering program key store).Keeps accepts program := fun t rows _ =>
    safe_offering (fun _ offered => offered) (fun _ none => nomatch none)
  exact (keeps.sound store (fun row there => Or.inl there) pool reached).invariant row stored

end Runs

end Transaction
