import RolePolicy.Condition.Clause
import RolePolicy.Sorted.Map

/-!
# Condition predicates

A predicate is a conjunction of clauses in canonical order, by operator block and then by key.  A
policy document has one entry for each block and key, so a predicate has at most one clause for each.
-/

namespace RolePolicy

/-- The conjunction of the clauses of a list. -/
structure Predicate where
  clauses : List Clause
  deriving DecidableEq

/-- The values of a policy document's condition by operator block and key. -/
abbrev ConditionBlocks := SortedMap String (SortedMap String (List String))

namespace Clause

/-- The place of a clause in a policy document: its operator block and its key. -/
def slot (c : Clause) : String × String :=
  (c.block, c.key)

/-- The canonical order of clauses. -/
def precedes (a b : Clause) : Bool :=
  a.block < b.block || (a.block == b.block && decide (a.key ≤ b.key))

/-- The first clause of an ordered list that has the slot of the clause before it. -/
def firstRepeated? : List Clause → Option Clause
  | a :: b :: rest => if a.slot = b.slot then some b else firstRepeated? (b :: rest)
  | _ => none

end Clause

namespace Predicate

/-- The predicate that always holds. -/
def unconditional : Predicate := ⟨[]⟩

def isEmpty (p : Predicate) : Bool := p.clauses.isEmpty

/-- Put clauses into canonical order; two clauses of one slot are refused. -/
def ofClauses (clauses : List Clause) : Except ClauseFault Predicate :=
  let ordered := clauses.mergeSort Clause.precedes
  match Clause.firstRepeated? ordered with
  | some c => .error (.repeated c.block c.key)
  | none => .ok ⟨ordered⟩

/-- The condition of a policy document. -/
def blocks (p : Predicate) : ConditionBlocks :=
  p.clauses.foldl
    (fun blocks c =>
      blocks.alter c.block fun keys => (keys.getD ∅).insert c.key c.values.toList) ∅

end Predicate

end RolePolicy
