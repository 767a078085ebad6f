import Scribe.BuildError
import Scribe.Construct.Leaf

/-!
# Conditionals

Guarded branches, and chains of branches that end in an alternative.

* `Branch` — `if` or `elif`, a guard and actions;
* `Chain` — the branch that opens it, the later branches and the actions of `else`;
* `Chain.addBranch` — attaches the next branch;
* `Branch.restamp`, `Chain.restamp` — make the levels below follow from the own level;
* `Branch.render`, `Chain.render` — their text forms.
-/

namespace Scribe

open Text

/-- A text form, or why there is none. -/
abbrev Rendering := Except BuildError Text

/-- The line that fills a suite without items. -/
def placeholder (level : Nat) : Text :=
  ['\n'] ++ tabs level ++ "pass".toList

/-- The actions of a suite, each on a line of its own, or the placeholder at the suite's level. -/
def renderActions (level : Nat) (actions : List Snippet) : Text :=
  if actions = [] then placeholder level
  else actions.flatMap fun action => ['\n'] ++ action.render

/-! ## Branches -/

inductive BranchKind where
  | opening
  | alternative
deriving DecidableEq, Repr

namespace BranchKind

def keyword : BranchKind → Text
  | opening => "if".toList
  | alternative => "elif".toList

end BranchKind

/-- Actions under a guard. The guard is part of the header line, so its own level is never used. -/
structure Branch where
  guard : Snippet
  actions : List Snippet
  kind : BranchKind := .opening
  level : Nat := 0
deriving DecidableEq, Repr

namespace Branch

/-- The branch with its actions one level below its own. -/
def restamp (b : Branch) : Branch :=
  { b with actions := b.actions.map (Snippet.setLevel (b.level + 1)) }

def setLevel (level : Nat) (b : Branch) : Branch :=
  Branch.restamp { b with level }

def new (guard : Snippet) (actions : List Snippet) (kind : BranchKind := .opening) : Branch :=
  Branch.restamp { guard, actions, kind }

def setKind (b : Branch) (kind : BranchKind) : Branch := { b with kind }

def pushAction (b : Branch) (action : Snippet) : Branch :=
  { b with actions := b.actions ++ [action.setLevel (b.level + 1)] }

def render (b : Branch) : Text :=
  ['\n'] ++ tabs b.level ++ b.kind.keyword ++ [' '] ++ b.guard.code ++ [':']
    ++ renderActions (b.level + 1) b.actions

end Branch

/-! ## Chains -/

/-- Branches of which the first that applies is taken, and the actions taken if none does. -/
structure Chain where
  primary : Option Branch := none
  elifs : List Branch := []
  elseActions : List Snippet
  level : Nat := 0
deriving DecidableEq, Repr

namespace Chain

def branches (c : Chain) : List Branch := c.primary.toList ++ c.elifs

/-- The chain with its branches at its own level and the actions of `else` one level below. -/
def restamp (c : Chain) : Chain :=
  { c with
    primary := c.primary.map fun b => (b.setLevel c.level).restamp
    elifs := c.elifs.map fun b => (b.setLevel c.level).restamp
    elseActions := c.elseActions.map (Snippet.setLevel (c.level + 1)) }

def setLevel (level : Nat) (c : Chain) : Chain :=
  Chain.restamp { c with level }

def new (elseActions : List Snippet) : Chain :=
  Chain.restamp { elseActions }

/-- Attaches the next branch, which takes the level of the chain. The first one opens the chain,
whatever word it came with, and every later one is an alternative. -/
def addBranch (c : Chain) (b : Branch) : Chain :=
  let attached := (b.setLevel c.level).restamp
  match c.primary with
  | none => { c with primary := some (attached.setKind .opening) }
  | some _ => { c with elifs := c.elifs ++ [attached.setKind .alternative] }

/-- All branches in order and the actions of `else`. A chain that nothing opens has no text form. -/
def render (c : Chain) : Rendering :=
  match c.primary with
  | none => .error .missingPrimary
  | some opening =>
    .ok (opening.render ++ c.elifs.flatMap Branch.render ++ ['\n'] ++ tabs c.level
      ++ "else:".toList ++ renderActions (c.level + 1) c.elseActions)

end Chain

end Scribe
