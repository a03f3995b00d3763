import KeyCustody.Proofs.LinkEquivalence

set_option autoImplicit false

namespace KeyCustody

structure Turn (S T : Surface) where
  query : S.Query
  asked : List T.Query
  answer : S.Answer query

section

variable {S T : Surface} {α σ : Type}

def Turn.taken (adapter : Adapter S T) (far : FarSide T σ) (query : S.Query) (state : σ) :
    Turn S T :=
  let held := (adapter query).hold far state
  ⟨query, held.asked, held.result⟩

theorem Turn.taken_query (adapter : Adapter S T) (far : FarSide T σ) (query : S.Query) (state : σ) :
    (taken adapter far query state).query = query := rfl

theorem Turn.taken_asked (adapter : Adapter S T) (far : FarSide T σ) (query : S.Query) (state : σ) :
    (taken adapter far query state).asked = ((adapter query).hold far state).asked := rfl

namespace Dialogue

def turns (adapter : Adapter S T) (far : FarSide T σ) : Dialogue S α → σ → List (Turn S T)
  | done _, _ => []
  | ask query reply, state =>
      let held := (adapter query).hold far state
      Turn.taken adapter far query state :: (reply held.result).turns adapter far held.state

theorem asked_via (adapter : Adapter S T) (far : FarSide T σ) (dialogue : Dialogue S α) (state : σ) :
    ((dialogue.via adapter).hold far state).asked =
      (dialogue.turns adapter far state).flatMap Turn.asked := by
  induction dialogue generalizing state with
  | done result => rfl
  | ask query reply ih => simp [via, turns, Turn.taken, hold_bind, ih]

theorem each_turn (adapter : Adapter S T) (far : FarSide T σ) (holds : Turn S T → Prop)
    (taken : ∀ query state, holds (Turn.taken adapter far query state)) (dialogue : Dialogue S α)
    (state : σ) : ∀ turn ∈ dialogue.turns adapter far state, holds turn := by
  induction dialogue generalizing state with
  | done result =>
      intro turn listed
      cases listed
  | ask query reply ih =>
      intro turn listed
      rcases List.mem_cons.mp listed with rfl | later
      · exact taken query state
      · exact ih _ _ turn later

def inTurn (first second : S.Query) : Dialogue S (S.Answer second) :=
  ask first fun _ => once second

theorem turns_in_turn (adapter : Adapter S T) (far : FarSide T σ) (first second : S.Query)
    (state : σ) :
    (inTurn first second).turns adapter far state =
      [Turn.taken adapter far first state,
        Turn.taken adapter far second ((adapter first).hold far state).state] := rfl

end Dialogue

end

namespace EncryptionKey

abbrev surface : Surface where
  Query := KeyName .key × Use
  Answer _ := Except Failure Bytes

def overRest : Adapter surface Rest.surface := fun ⟨name, use⟩ =>
  let key : EncryptionKey := ⟨name, .rest⟩
  key.across (key.perform use.verb use.payload use.associatedData)

end EncryptionKey
end KeyCustody
