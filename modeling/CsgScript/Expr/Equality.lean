import CsgScript.Expr.Basic
/-!
# Equality of expression trees

Two trees are equal when they have the same node kinds in the same shape, with equal parameters
and equal names, lines and values.  Reals compare as doubles do: a NaN equals nothing, and `0`
equals `-0`.  Files compare as paths: `a//b` and `a/b` are the same file.

A single child (of a projection or a modifier, or the subject of a commented expression) is held
by reference, and copying a tree shares these references; two single children held by one
reference are equal without being looked at.  `Expr.equalBy same` compares with `same c c'`
telling whether two single children are held by one reference.  `Expr.equal shared` takes that
shortcut at every single child when `shared` holds — a tree against its own copy — and nowhere
otherwise.  Lists of children are compared member by member in either case.
-/

namespace CsgScript

namespace Expr

mutual

/-- Equality of trees, where `same c c'` tells whether two single children are held by one
reference and so count as equal. -/
def equalBy (same : Expr → Expr → Bool) : Expr → Expr → Bool
  | .shape a, .shape b => a == b
  | .projection c cut, .projection c' cut' => (same c c' || equalBy same c c') && cut == cut'
  | .apply op cs, .apply op' cs' => op == op' && equalByList same cs cs'
  | .modify m d c, .modify m' d' c' => m == m' && d == d' && (same c c' || equalBy same c c')
  | .define d n cs, .define d' n' cs' => d == d' && n == n' && equalByList same cs cs'
  | .call d n cs, .call d' n' cs' => d == d' && n == n' && equalByList same cs cs'
  | .callFree n, .callFree n' => n == n'
  | .callerChildren, .callerChildren => true
  | .comment ls, .comment ls' => ls == ls'
  | .commented d ls s, .commented d' ls' s' =>
    d == d' && ls == ls' && (same s s' || equalBy same s s')
  | .special n p r, .special n' p' r' => n == n' && p == p' && r == r'
  | .echo vs, .echo vs' => Value.beqList vs vs'
  | _, _ => false

/-- Equality of lists of trees, member by member. -/
def equalByList (same : Expr → Expr → Bool) : List Expr → List Expr → Bool
  | [], [] => true
  | e :: es, e' :: es' => equalBy same e e' && equalByList same es es'
  | _, _ => false

end

/-- Equality of trees; with `shared`, single children are held by one reference and count as
equal, as between a tree and its copy. -/
def equal (shared : Bool) : Expr → Expr → Bool := equalBy fun _ _ => shared

end Expr

end CsgScript
