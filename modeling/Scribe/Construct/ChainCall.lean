import Scribe.Construct.Outline
import Scribe.Construct.Render

/-!
# Chains in use

The calls on a chain as data, and what a chain should be after them, said of the branches that were
attached and of the level that was asked for last.

* `ChainCall` — a call on a chain;
* `Chain.call`, `Chain.run` — one call and a run of them;
* `ChainCall.attached`, `ChainCall.levelAfter` — the branches that a run attaches, and the level that it
  leaves;
* `Branch.placed`, `Chain.assembled` — a branch in its place, and the chain that some branches make up;
* `Chain.clauses` — the lines that such a chain should have.
-/

namespace Scribe

open Text

/-- A call on a chain. A chain is rendered as it stands, or after its levels were brought in order. -/
inductive ChainCall where
  | attach (b : Branch)
  | relevel (r : Relevel)
  | render
  | renderFresh
deriving DecidableEq, Repr

namespace Chain

def relevel (r : Relevel) (c : Chain) : Chain :=
  r.apply Chain.level Chain.setLevel Chain.restamp c

/-- The chain after a call. -/
def call (c : Chain) : ChainCall → Chain
  | .attach b => c.addBranch b
  | .relevel r => c.relevel r
  | .render => c
  | .renderFresh => c.restamp

def run (c : Chain) (calls : List ChainCall) : Chain := calls.foldl call c

@[simp] theorem run_nil (c : Chain) : c.run [] = c := rfl

@[simp] theorem run_cons (c : Chain) (x : ChainCall) (calls : List ChainCall) :
    c.run (x :: calls) = (c.call x).run calls := rfl

end Chain

/-! ## What a run asks for -/

namespace ChainCall

/-- The branches that the calls attach, in order. -/
def attached (calls : List ChainCall) : List Branch :=
  calls.filterMap fun
    | attach b => some b
    | _ => none

/-- The level of a chain after a call, given its level before. -/
def target (level : Nat) : ChainCall → Nat
  | relevel r => r.target level
  | attach _ | render | renderFresh => level

def levelAfter (level : Nat) (calls : List ChainCall) : Nat := calls.foldl target level

end ChainCall

/-! ## What a chain should be -/

/-- A branch in its place in a chain at a level, with the word that the place asks for. Nothing else of
the branch changes but the levels of its actions. -/
def Branch.placed (level : Nat) (kind : BranchKind) (b : Branch) : Branch :=
  { guard := b.guard, actions := b.actions.map (Snippet.setLevel (level + 1)), kind, level }

namespace Chain

/-- The chain that some branches make up: the first opens it, and the others are alternatives. -/
def assembled (level : Nat) (branches : List Branch) (elseActions : List Snippet) : Chain :=
  { primary := branches.head?.map (Branch.placed level .opening)
    elifs := branches.tail.map (Branch.placed level .alternative)
    elseActions := elseActions.map (Snippet.setLevel (level + 1))
    level }

/-- A header line and the actions below it, or what stands for them. -/
def clause (level : Nat) (header : Text) (actions : List Snippet) : List Entry :=
  ⟨level, header⟩ :: Snippet.suiteOutline (level + 1) actions

/-- The lines of a chain: the branch that opens it, the alternatives in order, and `else`. -/
def clauses (level : Nat) (opening : Branch) (alternatives : List Branch)
    (elseActions : List Snippet) : List Entry :=
  clause level ("if ".toList ++ opening.guard.code ++ ":".toList) opening.actions
    ++ alternatives.flatMap (fun b =>
        clause level ("elif ".toList ++ b.guard.code ++ ":".toList) b.actions)
    ++ clause level "else:".toList elseActions

/-- The text form that a chain of some branches should have: every line follows a newline, and without
branches there is none. -/
def expectedText (level : Nat) (elseActions : List Snippet) : List Branch → Rendering
  | [] => .error .missingPrimary
  | opening :: alternatives =>
    .ok ((clauses level opening alternatives elseActions).flatMap fun e => '\n' :: e.line)

end Chain

end Scribe
