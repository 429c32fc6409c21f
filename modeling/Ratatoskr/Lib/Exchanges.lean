import Ratatoskr.Lib.Dialogue

/-! A program that asks servers which answer as they like: what it has exchanged with them by the time it is left or has
ended. What each of its requests needs is proved request by request and then holds of all exchanges. -/
namespace Dialogue

variable {ρ : Type} {σ : ρ → Type} {α β ε : Type}

/-- A request and its answer -/
abbrev Exchange (σ : ρ → Type) := (request : ρ) × σ request

/-- The exchanges of a program, and what is left of it then -/
inductive Makes : Dialogue ρ σ α → List (Exchange σ) → Dialogue ρ σ α → Prop
  | here (body : Dialogue ρ σ α) : Makes body [] body
  | turn {request : ρ} {next : σ request → Dialogue ρ σ α} {answer : σ request} {later : List (Exchange σ)}
      {rest : Dialogue ρ σ α} : Makes (next answer) later rest → Makes (.ask request next) (⟨request,answer⟩ :: later) rest

/-- A server that answers anything and remembers it -/
def recording (made : List (Exchange σ)) (reply : (request : ρ) → σ request) (request : ρ) :
    Option (σ request × List (Exchange σ)) := some (reply request,made ++ [⟨request,reply request⟩])

/-- One more exchange, whose request was permitted by those before it -/
def Permits (Permitted : List (Exchange σ) → ρ → Prop) (before after : List (Exchange σ)) : Prop :=
  ∃ request answer, after = before ++ [⟨request,answer⟩] ∧ Permitted before request

variable (Permitted : List (Exchange σ) → ρ → Prop)

/-- Whatever is answered, each request is permitted by what was exchanged before, and the program ends as told. -/
abbrev Orderly (after : α → List (Exchange σ) → Prop) (body : Dialogue ρ σ α) (made : List (Exchange σ)) : Prop :=
  Secure recording (fun _ => True) (fun _ => True) Eq (Permits Permitted) after body made

variable {Permitted} {after : α → List (Exchange σ) → Prop} {body rest : Dialogue ρ σ α}
  {made exchanges : List (Exchange σ)}

/-- A request that is permitted, and a program that is orderly after every answer to it -/
theorem orderly_turn {request : ρ} {next : σ request → Dialogue ρ σ α} (permitted : Permitted made request)
    (onward : ∀ answer, Orderly Permitted after (next answer) (made ++ [⟨request,answer⟩])) :
    Orderly Permitted after (.ask request next) made := by
  rintro _ reply _ _ _ rfl _ served
  obtain ⟨rfl,rfl⟩ := Prod.mk.inj (Option.some.inj served)
  exact ⟨trivial,⟨request,reply request,rfl,permitted⟩,onward _⟩

/-- What has been exchanged stays exchanged. -/
theorem Orderly.extends {base : List (Exchange σ)} (orderly : Orderly Permitted after body made) (prior : base <+: made) :
    Orderly Permitted (fun value later => after value later ∧ base <+: later) body made := by
  induction body generalizing made with
  | done value => exact ⟨orderly,prior⟩
  | ask request next ih =>
    intro later event answer moved valid onward allowed served
    obtain ⟨kept,moves,secure⟩ := orderly later event answer moved valid onward allowed served
    refine ⟨kept,moves,ih answer secure ?_⟩
    obtain ⟨asked,given,rfl,_⟩ := moves
    subst onward
    exact prior.trans (List.prefix_append _ _)

/-- A given answer is one that the server may give. -/
theorem orderly_next {request : ρ} {next : σ request → Dialogue ρ σ α}
    (orderly : Orderly Permitted after (.ask request next) made)
    (answer : σ request) (inhabited : (other : ρ) → σ other) :
    Permitted made request ∧ Orderly Permitted after (next answer) (made ++ [⟨request,answer⟩]) := by
  classical
  let reply : (other : ρ) → σ other := Function.update inhabited request answer
  have same : reply request = answer := Function.update_self request answer inhabited
  obtain ⟨_,⟨asked,given,moved,permitted⟩,onward⟩ := orderly made reply (reply request) _ trivial rfl trivial rfl
  obtain ⟨_,ends⟩ := List.append_inj' moved rfl
  obtain ⟨rfl,_⟩ := Sigma.mk.inj (List.cons.inj ends).1
  rw [same] at onward
  exact ⟨permitted,onward⟩

/-- Every request of an orderly program was permitted by the exchanges before it, and at its end it is as told. -/
theorem Makes.orderly (makes : Makes body exchanges rest) (inhabited : (request : ρ) → σ request)
    (orderly : Orderly Permitted after body made) :
    (∀ before request answer later, exchanges = before ++ ⟨request,answer⟩ :: later → Permitted (made ++ before) request) ∧
      Orderly Permitted after rest (made ++ exchanges) := by
  induction makes generalizing made with
  | here body =>
    rw [List.append_nil]
    exact ⟨fun before request answer later none_ => by simp at none_,orderly⟩
  | turn onward ih =>
    rename_i asked next given later rest
    obtain ⟨permitted,secure⟩ := orderly_next orderly given inhabited
    obtain ⟨each,ends⟩ := ih secure
    rw [List.append_assoc] at ends
    refine ⟨fun before request answer following split => ?_,ends⟩
    cases before with
    | nil =>
      obtain ⟨rfl,_⟩ := Sigma.mk.inj (List.cons.inj split).1
      rwa [List.append_nil]
    | cons first before =>
      obtain ⟨rfl,tail⟩ := List.cons.inj split
      have found := each before request answer following tail
      rwa [List.append_assoc] at found

end Dialogue
