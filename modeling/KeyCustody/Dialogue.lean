/-!
Dialogues with a far side. A dialogue is what a caller does as a whole: it asks, goes on from the
answer, and ends with a result. It says nothing about the far side, which answers when the dialogue
is held. An adapter puts each query of one surface as a dialogue across another. Main statement: to
hold one dialogue after another is to hold the first, and the next from where it left off.
-/

set_option autoImplicit false

namespace KeyCustody

structure Surface where
  Query : Type
  Answer : Query → Type

inductive Dialogue (S : Surface) (α : Type) where
  | done (result : α)
  | ask (query : S.Query) (reply : S.Answer query → Dialogue S α)

abbrev Adapter (S T : Surface) :=
  (query : S.Query) → Dialogue T (S.Answer query)

-- A far side whose answers may depend on what it was asked before.
abbrev FarSide (S : Surface) (σ : Type) :=
  (query : S.Query) → σ → S.Answer query × σ

namespace Dialogue

variable {S T : Surface} {α β σ : Type}

def bind : Dialogue S α → (α → Dialogue S β) → Dialogue S β
  | done result, next => next result
  | ask query reply, next => ask query fun answer => (reply answer).bind next

def once (query : S.Query) : Dialogue S (S.Answer query) :=
  ask query done

def via (adapter : Adapter S T) : Dialogue S α → Dialogue T α
  | done result => done result
  | ask query reply => (adapter query).bind fun answer => (reply answer).via adapter

structure Held (S : Surface) (α σ : Type) where
  asked : List S.Query
  result : α
  state : σ

def hold (far : FarSide S σ) : Dialogue S α → σ → Held S α σ
  | done result, state => ⟨[], result, state⟩
  | ask query reply, state =>
      let answered := far query state
      let rest := (reply answered.1).hold far answered.2
      { rest with asked := query :: rest.asked }

theorem hold_bind (far : FarSide S σ) (dialogue : Dialogue S α) (next : α → Dialogue S β)
    (state : σ) :
    (dialogue.bind next).hold far state =
      let first := dialogue.hold far state
      let rest := (next first.result).hold far first.state
      { rest with asked := first.asked ++ rest.asked } := by
  induction dialogue generalizing state with
  | done result => rfl
  | ask query reply ih => simp [bind, hold, ih]

end Dialogue
end KeyCustody
