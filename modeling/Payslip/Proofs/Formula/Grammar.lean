/-
# The grammar of accepted formulas

A strict check looks at the first term of a formula, at the last one and at neighbours. The formulas
that pass are those in which operands and operators alternate (`validate_eq_ok_iff`), and each of
these can be read as an expression in one way only (`exists_reads`, `Reads.unique`).

Reading goes from right to left. A further operand in front of an expression descends along the left
sides until it meets an operator that binds more tightly than its own (`prepend`).
-/

import Mathlib.Order.Lattice
import Payslip.Formula.Expression
import Payslip.Validation

namespace Payslip

namespace Formula

/-! ## What is accepted -/

/-- Nothing is misplaced where no two neighbours are of one sort. -/
theorem misplaced?_cons_eq_none_iff {index : Nat} {left right : Term} {rest : List Term} :
    misplaced? index (left :: right :: rest) = none ↔
      left.isOperator ≠ right.isOperator ∧ misplaced? (index + 1) (right :: rest) = none := by
  rw [misplaced?]
  cases left.isOperator <;> cases right.isOperator <;> simp

namespace Alternates

variable {terms others : List Term}

theorem append (first : Alternates terms) (op : Operator) (second : Alternates others) :
    Alternates (terms ++ .operator op :: others) := by
  induction first with
  | operand isOperand => exact .operation isOperand op second
  | operation isOperand other _ ih => exact .operation isOperand other ih

theorem ne_nil (alternates : Alternates terms) : terms ≠ [] := by
  cases alternates <;> exact List.cons_ne_nil _ _

theorem head? (alternates : Alternates terms) : terms.head?.any Term.isOperator = false := by
  cases alternates with
  | operand isOperand => exact isOperand
  | operation isOperand op behind => exact isOperand

theorem getLast? (alternates : Alternates terms) :
    terms.getLast?.any Term.isOperator = false := by
  induction alternates with
  | operand isOperand => exact isOperand
  | operation isOperand op behind ih =>
      obtain ⟨next, rest, rfl⟩ := List.exists_cons_of_ne_nil behind.ne_nil
      exact ih

theorem misplaced?_eq_none (alternates : Alternates terms) (index : Nat) :
    misplaced? index terms = none := by
  induction alternates generalizing index with
  | operand isOperand => rfl
  | operation isOperand op behind ih =>
      have leading := behind.head?
      obtain ⟨second, rest, rfl⟩ := List.exists_cons_of_ne_nil behind.ne_nil
      have second_operand : second.isOperator = false := leading
      rw [misplaced?_cons_eq_none_iff, misplaced?_cons_eq_none_iff, isOperand, second_operand]
      exact ⟨Bool.false_ne_true, Bool.false_ne_true.symm, ih _⟩

end Alternates

/-- The three checks of the form of a formula leave nothing else. -/
theorem alternates_of_misplaced?_eq_none : ∀ (index : Nat) (terms : List Term), terms ≠ [] →
    terms.head?.any Term.isOperator = false → terms.getLast?.any Term.isOperator = false →
      misplaced? index terms = none → Alternates terms
  | _, [], some_term, _, _, _ => absurd rfl some_term
  | _, [_], _, leading, _, _ => .operand leading
  | _, [_, .operator _], _, _, trailing, _ => by cases trailing
  | index, first :: .operator op :: third :: rest, _, leading, trailing, placed => by
      rw [misplaced?_cons_eq_none_iff, misplaced?_cons_eq_none_iff] at placed
      obtain ⟨-, other, placed⟩ := placed
      have third_operand : third.isOperator = false := Bool.eq_false_iff.mpr other.symm
      exact .operation leading op (alternates_of_misplaced?_eq_none (index + 1 + 1) (third :: rest)
        (List.cons_ne_nil _ _) third_operand trailing placed)
  | _, _ :: .value _ :: _, _, leading, _, placed =>
      absurd leading (misplaced?_cons_eq_none_iff.mp placed).1
  | _, _ :: .percentage _ _ :: _, _, leading, _, placed =>
      absurd leading (misplaced?_cons_eq_none_iff.mp placed).1

/-- A formula is accepted if it is empty or alternates, and no operand refers to the component. -/
theorem validate_eq_ok_iff (componentId : String) (terms : List Term) :
    validate componentId terms = .ok () ↔
      (terms = [] ∨ Alternates terms) ∧
        ∀ term ∈ terms, term.componentId? ≠ some componentId := by
  have verdict : validate componentId terms = .ok () ↔ fault? componentId terms = none := by
    rw [validate]
    split
    · next passed => simp [passed]
    · next found => simp [found]
  rw [verdict, fault?]
  constructor
  · intro passed
    split at passed
    · cases passed
    · next leading =>
      split at passed
      · cases passed
      · next trailing =>
        split at passed
        · cases passed
        · next placed =>
          split at passed
          · cases passed
          · next elsewhere =>
            refine ⟨or_iff_not_imp_left.mpr fun some_term => ?_, fun term listed same => ?_⟩
            · exact alternates_of_misplaced?_eq_none 0 terms some_term
                (Bool.not_eq_true _ ▸ leading) (Bool.not_eq_true _ ▸ trailing) placed
            · exact elsewhere (List.any_eq_true.mpr ⟨term, listed, beq_iff_eq.mpr same⟩)
  · rintro ⟨form, elsewhere⟩
    have others : terms.any (·.componentId? == some componentId) = false := by
      simpa using elsewhere
    rcases form with rfl | alternates
    · rfl
    · rw [alternates.head?, alternates.getLast?, alternates.misplaced?_eq_none, others]
      rfl

/-! ## Reading -/

end Formula

theorem Operator.strength_pos (op : Operator) : 0 < op.strength := by
  cases op <;> decide

theorem Operator.strength_lt (op : Operator) : op.strength < 3 := by
  cases op <;> decide

theorem Operator.bindsTighter_iff {op : Operator} : op.bindsTighter = true ↔ 1 < op.strength := by
  cases op <;> decide

namespace Formula

namespace Expression

/-- The expression with one more operand and operator in front. The operand belongs to the first
operator behind it, in front of those that do not bind more tightly. -/
def prepend (term : Term) (op : Operator) : Expression → Expression
  | operand behind => operation op (operand term) (operand behind)
  | operation outer left right =>
    if outer.strength ≤ op.strength then operation outer (left.prepend term op) right
    else operation op (operand term) (operation outer left right)

variable {term : Term} {op : Operator} {expression : Expression}

theorem terms_prepend (term : Term) (op : Operator) (expression : Expression) :
    (expression.prepend term op).terms = term :: .operator op :: expression.terms := by
  induction expression with
  | operand behind => rfl
  | operation outer left right first second =>
      rw [prepend]
      split
      · rw [terms, first]
        rfl
      · rfl

theorem strength_prepend (term : Term) (op : Operator) (expression : Expression) :
    (expression.prepend term op).strength = min op.strength expression.strength := by
  have weak := op.strength_lt
  cases expression with
  | operand behind =>
      simp only [prepend, strength]
      omega
  | operation outer left right =>
      rw [prepend]
      split <;> simp only [strength] <;> omega

theorem Grouped.prepend (isOperand : term.isOperator = false) (grouped : expression.Grouped) :
    (expression.prepend term op).Grouped := by
  have weak := op.strength_lt
  induction expression with
  | operand behind => exact ⟨isOperand, grouped, weak.le, weak⟩
  | operation outer left right first second =>
      obtain ⟨leftGrouped, rightGrouped, notWeaker, stronger⟩ := grouped
      rw [Expression.prepend]
      split
      · next outermost =>
        refine ⟨first leftGrouped, rightGrouped, ?_, stronger⟩
        rw [strength_prepend]
        exact le_min outermost notWeaker
      · next inner =>
        have below : op.strength < outer.strength := not_le.mp inner
        exact ⟨isOperand, ⟨leftGrouped, rightGrouped, notWeaker, stronger⟩, weak.le, below⟩

/-- In front of an expression that binds more tightly the operand stands alone. -/
theorem prepend_of_lt (stronger : op.strength < expression.strength) :
    expression.prepend term op = operation op (operand term) expression := by
  cases expression with
  | operand behind => rfl
  | operation outer left right => exact if_neg (not_le.mpr stronger)

theorem Grouped.alternates (grouped : expression.Grouped) : Alternates expression.terms := by
  induction expression with
  | operand term => exact .operand grouped
  | operation op left right first second => exact (first grouped.1).append op (second grouped.2.1)

end Expression

open Expression (operand operation)

/-- The expression that terms are read as; there is none if they do not alternate. -/
def read? : List Term → Option Expression
  | [term] => if term.isOperator then none else some (operand term)
  | term :: .operator op :: rest =>
    if term.isOperator then none else (read? rest).map (·.prepend term op)
  | _ => none

section Read

variable {terms others : List Term} {left right : Expression} {op : Operator}

/-- Terms around an operator are read apart if the operator is the outermost one. -/
theorem read?_append (alternates : Alternates terms) (first : read? terms = some left)
    (second : read? others = some right) (notWeaker : op.strength ≤ left.strength)
    (stronger : op.strength < right.strength) :
    read? (terms ++ .operator op :: others) = some (operation op left right) := by
  induction alternates generalizing left with
  | @operand term isOperand =>
      rw [read?, isOperand] at first
      cases first
      rw [List.singleton_append, read?, isOperand, second]
      exact congrArg some (Expression.prepend_of_lt stronger)
  | @operation term isOperand inner rest _ ih =>
      rw [read?, isOperand] at first
      obtain ⟨behind, given, rfl⟩ := Option.map_eq_some_iff.mp first
      rw [Expression.strength_prepend] at notWeaker
      have onward := ih given (notWeaker.trans (min_le_right _ _))
      rw [List.cons_append, List.cons_append, read?, isOperand, onward]
      exact congrArg some (if_pos (notWeaker.trans (min_le_left _ _)))

/-- Whatever is written without brackets is read as what it was. -/
theorem read?_terms {expression : Expression} (grouped : expression.Grouped) :
    read? expression.terms = some expression := by
  induction expression with
  | operand term =>
      rw [Expression.terms, read?, show term.isOperator = false from grouped]
      rfl
  | operation op left right first second =>
      obtain ⟨leftGrouped, rightGrouped, notWeaker, stronger⟩ := grouped
      exact read?_append leftGrouped.alternates (first leftGrouped) (second rightGrouped) notWeaker
        stronger

end Read

/-- The terms can be read as the expression. -/
structure Reads (expression : Expression) (terms : List Term) : Prop where
  grouped : expression.Grouped
  terms_eq : expression.terms = terms

/-- Terms that alternate can be read. -/
theorem exists_reads {terms : List Term} (alternates : Alternates terms) :
    ∃ expression, Reads expression terms := by
  induction alternates with
  | @operand term isOperand => exact ⟨operand term, isOperand, rfl⟩
  | @operation term isOperand op rest _ ih =>
      obtain ⟨expression, grouped, written⟩ := ih
      refine ⟨expression.prepend term op, grouped.prepend isOperand, ?_⟩
      rw [Expression.terms_prepend, written]

/-- There is one way only to read them. -/
theorem Reads.unique {expression other : Expression} {terms : List Term}
    (reads : Reads expression terms) (again : Reads other terms) : other = expression := by
  have first := read?_terms reads.grouped
  have second := read?_terms again.grouped
  rw [reads.terms_eq] at first
  rw [again.terms_eq, first] at second
  exact (Option.some.inj second).symm

end Formula

end Payslip
