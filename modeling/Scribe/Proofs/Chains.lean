import Scribe.Construct.ChainCall
import Scribe.Proofs.Rows

/-!
# Chains after any calls

Whatever is called on a chain, it consists of the branches that were attached, in order and in their
places, at the level that was asked for last.

* `Chain.call_assembled` — what one call does;
* `Chain.run_assembled` — what a run does;
* `Chain.render_assembled` — the text form;
* `Chain.run_new` — the chain and its text form after any calls.
-/

namespace Scribe

open Text

namespace Branch

variable {n : Nat}

/-- A branch that is stamped and told its word is in its place, whatever levels it came with. -/
theorem setKind_restamp_setLevel (n : Nat) (kind : BranchKind) (b : Branch) :
    ((b.setLevel n).restamp).setKind kind = b.placed n kind := by
  simp only [setLevel_eq_topDown, restamp_eq_topDown]
  have hlevel : (b.topDown n).level = n := rfl
  rw [hlevel, Branch.topDown_eq_self (b.levelsFrom_topDown n)]
  rfl

/-- A branch keeps its word when it is moved. -/
theorem topDown_placed (m : Nat) (kind : BranchKind) (b : Branch) :
    (b.placed n kind).topDown m = b.placed m kind := by
  simp only [placed, topDown, List.map_map]
  rfl

end Branch

namespace Chain

variable {level : Nat} {branches : List Branch} {elseActions : List Snippet}

/-! ## One call -/

theorem topDown_assembled (n : Nat) :
    (assembled level branches elseActions).topDown n = assembled n branches elseActions := by
  have hbranch (kind : BranchKind) :
      Branch.topDown n ∘ Branch.placed level kind = Branch.placed n kind :=
    funext fun b => b.topDown_placed n kind
  simp only [assembled, topDown, Option.map_map, List.map_map, hbranch]
  rfl

theorem relevel_assembled (r : Relevel) :
    (assembled level branches elseActions).relevel r =
      assembled (r.target level) branches elseActions := by
  let c := assembled level branches elseActions
  have hpass : c.relevel r = c.topDown (r.target c.level) :=
    r.apply_eq (fun n => setLevel_eq_topDown n c) (restamp_eq_topDown c)
  exact hpass.trans (topDown_assembled _)

theorem addBranch_assembled (b : Branch) :
    (assembled level branches elseActions).addBranch b =
      assembled level (branches ++ [b]) elseActions := by
  have hplaced := b.setKind_restamp_setLevel level
  -- The first branch takes a place of its own; later ones go to the end.
  cases branches with
  | nil =>
    simp only [assembled, addBranch, hplaced]
    rfl
  | cons opening rest =>
    simp only [assembled, addBranch, hplaced]
    simp

theorem call_assembled (x : ChainCall) :
    (assembled level branches elseActions).call x =
      assembled (x.target level) (branches ++ ChainCall.attached [x]) elseActions := by
  have hnone : branches ++ [] = branches := List.append_nil branches
  cases x with
  | attach b => exact addBranch_assembled b
  | relevel r =>
    simp only [call, relevel_assembled]
    exact (congrArg (assembled _ · _) hnone).symm
  | render => exact (congrArg (assembled _ · _) hnone).symm
  | renderFresh =>
    simp only [call, restamp_eq_topDown]
    exact (topDown_assembled _).trans (congrArg (assembled _ · _) hnone).symm

/-! ## A run of calls -/

theorem run_assembled (calls : List ChainCall) :
    (assembled level branches elseActions).run calls =
      assembled (ChainCall.levelAfter level calls) (branches ++ ChainCall.attached calls)
        elseActions := by
  -- The level and the branches so far are those of any earlier run.
  induction calls generalizing level branches with
  | nil => exact (congrArg (assembled _ · _) (List.append_nil branches)).symm
  | cons x rest ih =>
    have hattached : ChainCall.attached (x :: rest) =
        ChainCall.attached [x] ++ ChainCall.attached rest := by
      simp only [ChainCall.attached, ← List.filterMap_append, List.singleton_append]
    rw [run_cons, call_assembled, ih, hattached, List.append_assoc]
    rfl

theorem new_eq_assembled (elseActions : List Snippet) :
    Chain.new elseActions = assembled 0 [] elseActions := by
  simp only [Chain.new, restamp_eq_topDown]
  rfl

/-! ## Text forms -/

/-- The levels that actions hold do not show in an outline. -/
theorem suiteOutline_map_setLevel (n : Nat) (actions : List Snippet) :
    Snippet.suiteOutline n (actions.map (Snippet.setLevel n)) = Snippet.suiteOutline n actions := by
  simp only [Snippet.suiteOutline, List.map_eq_nil_iff, List.flatMap_map]
  rfl

theorem written_placed (level : Nat) (kind : BranchKind) (b : Branch) :
    Row.written ((b.placed level kind).rows level) =
      (clause level (b.placed level kind).firstLine b.actions).flatMap fun e => '\n' :: e.line := by
  simp only [Branch.rows, Row.written_suite, Branch.outline, Branch.placed,
    suiteOutline_map_setLevel, clause]

/-- The rows of the chain are the lines that it should have. -/
theorem written_assembled_cons (level : Nat) (opening : Branch) (alternatives : List Branch) :
    Row.written ((assembled level (opening :: alternatives) elseActions).rows level) =
      (clauses level opening alternatives elseActions).flatMap fun e => '\n' :: e.line := by
  simp only [rows, branches, assembled, List.head?_cons, List.tail_cons, Option.map_some,
    Option.toList_some, List.singleton_append, List.flatMap_cons, List.flatMap_map,
    Row.written_append, Row.written_flatMap, written_placed, Row.written_suite,
    suiteOutline_map_setLevel]
  simp only [clauses, List.flatMap_append, List.flatMap_assoc, clause]
  rfl

theorem render_assembled (level : Nat) (branches : List Branch) (elseActions : List Snippet) :
    (assembled level branches elseActions).render = expectedText level elseActions branches := by
  have hself : (assembled level branches elseActions).topDown level =
      assembled level branches elseActions := topDown_assembled level
  have hwrites := Chain.render_topDown level (assembled level branches elseActions)
  rw [hself] at hwrites
  cases branches with
  | nil => exact hwrites.fault fun h => h rfl
  | cons opening alternatives =>
    have htext := hwrites.text (Option.some_ne_none _)
    rw [htext, written_assembled_cons]
    rfl

/-- After any calls on a new chain, its level is the one asked for last, and the chain consists of the
branches that were attached: the first opens it, whatever word it came with, and the others are
alternatives in the order of attachment. Guards and texts are the given ones, all branches stand at
the level of the chain and all actions one level below. The chain has a text form if and only if a
branch was attached, and then it shows all of them in order and `else`, whether or not it is stamped
once more. -/
theorem run_new (elseActions : List Snippet) (calls : List ChainCall) :
    let c := (Chain.new elseActions).run calls
    let level := ChainCall.levelAfter 0 calls
    let branches := ChainCall.attached calls
    c.level = level ∧
      c.primary = branches.head?.map (Branch.placed level .opening) ∧
      c.elifs = branches.tail.map (Branch.placed level .alternative) ∧
      c.elseActions = elseActions.map (Snippet.setLevel (level + 1)) ∧
      (c.primary = none ↔ branches = []) ∧
      c.render = expectedText level elseActions branches ∧
      (Construct.chain c).renderFresh = expectedText level elseActions branches := by
  intro c level branches
  have hc : c = assembled level branches elseActions := by
    simp only [c, new_eq_assembled, run_assembled, List.nil_append, level, branches]
  have hrestamp : c.restamp = c := by
    simp only [restamp_eq_topDown, hc]
    exact topDown_assembled _
  have hrender : c.render = expectedText level elseActions branches := by
    rw [hc, render_assembled]
  refine ⟨by rw [hc]; rfl, by rw [hc]; rfl, by rw [hc]; rfl, by rw [hc]; rfl, ?_, hrender, ?_⟩
  · rw [hc]
    simp [assembled]
  · simp only [Construct.renderFresh, Construct.restamp_chain, hrestamp, Construct.render, hrender]

end Chain

end Scribe
