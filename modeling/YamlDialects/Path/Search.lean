import YamlDialects.Path.Traversal

/-!
Searching for the first results of a traversal. A graph may unfold without end, so the visit stops as
soon as enough results have been seen.
-/

set_option autoImplicit false

namespace YamlDialects

inductive Visit (σ : Type) where
  | ended (state : σ)
  | going (state : σ)

namespace Visit

def state {σ : Type} : Visit σ → σ
  | .ended state => state
  | .going state => state

def through {α σ : Type} (visit : α → σ → Visit σ) : List α → σ → Visit σ
  | [], state => .going state
  | item :: rest, state =>
      match visit item state with
      | .ended state => .ended state
      | .going state => through visit rest state

def levels {α σ : Type} (expand : {τ : Type} → (α → τ → Visit τ) → α → τ → Visit τ)
    (visit : α → σ → Visit σ) : Nat → List α → σ → Visit σ
  | 0, _, state => .going state
  | _ + 1, [], state => .going state
  | depth + 1, level, state =>
      let keep := fun node (found : List α × σ) =>
        match visit node found.2 with
        | .ended state => Visit.ended (node :: found.1, state)
        | .going state => Visit.going (node :: found.1, state)
      match through (fun node found => expand keep node found) level ([], state) with
      | .ended found => .ended found.2
      | .going found => levels expand visit depth found.1.reverse found.2

end Visit

namespace Traversal

def visit {α : Type} [Navigable α] (depth : Nat) :
    Traversal → {σ : Type} → (α → σ → Visit σ) → α → σ → Visit σ
  | .empty, _, act, start, state => act start state
  | .segment move, _, act, start, state => Visit.through act (Navigable.step move start) state
  | .path moves, _, act, start, state =>
      moves.foldr (fun move next node state => Visit.through next (Navigable.step move node) state) act
        start state
  | .sequence first second, _, act, start, state =>
      visit depth first (fun node state => visit depth second act node state) start state
  | .alternative left right, _, act, start, state =>
      match visit depth left act start state with
      | .ended state => .ended state
      | .going state => visit depth right act start state
  | .repetition step, _, act, start, state =>
      match act start state with
      | .ended state => .ended state
      | .going state =>
          Visit.levels (fun keep node found => visit depth step keep node found) act depth [start] state

def firstResults {α : Type} [Navigable α] (depth limit : Nat) (traversal : Traversal) (start : α) : List α :=
  if limit = 0 then []
  else
    let collect := fun node (found : List α × Nat) =>
      if found.2 + 1 < limit then Visit.going (node :: found.1, found.2 + 1)
      else Visit.ended (node :: found.1, found.2 + 1)
    (visit depth traversal collect start ([], 0)).state.1.reverse

end Traversal
end YamlDialects
