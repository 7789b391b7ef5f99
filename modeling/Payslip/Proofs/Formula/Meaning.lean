/-
# The value of an accepted formula

The reduction of a formula does not look at its form. Where operands and operators alternate, it
comes to the value of the expression that the formula is read as (`toOption_value_terms`), in every
catalog and with whatever is in store (`validate_iff_readable`).

The induction is on the expression, by its outermost operator (`toOption_reduce_append`). If that is
an addition or a subtraction, all that is right of it is one product, which becomes the last
summand; if it is a multiplication or a division, there is a single operand right of it, and all
that is left of it is one product.
-/

import Mathlib.Data.List.Forall2
import Payslip.Proofs.Evaluation.Session
import Payslip.Proofs.Formula.Grammar

namespace Payslip

theorem Operator.toOption_apply (op : Operator) (left right : Decimal) :
    (op.apply left right).toOption = op.result? left right := by
  rw [apply]
  split
  · next found => exact found.symm
  · next beyond => exact beyond.symm

namespace Formula

/-! ## Reducing by the outermost operator -/

section Reduce

variable {operands others : List Decimal} {operators ops : List Operator} {op : Operator}

theorem exists_cons_cons_of_length_eq {count : Nat} (complete : operands.length = count + 1 + 1) :
    ∃ first second behind, operands = first :: second :: behind ∧
      (second :: behind).length = count + 1 := by
  obtain ⟨first, behind, rfl⟩ := List.exists_cons_of_length_eq_add_one complete
  obtain ⟨second, behind, rfl⟩ := List.exists_cons_of_length_eq_add_one (Nat.succ.inj complete)
  exact ⟨first, second, behind, rfl, Nat.succ.inj complete⟩

/-- The first pass leaves one operand more than operators, as it found them. -/
theorem length_of_foldProducts {left : List Decimal × List Operator}
    (complete : operands.length = operators.length + 1)
    (folded : foldProducts operands operators = .ok left) : left.1.length = left.2.length + 1 := by
  induction operators generalizing operands left with
  | nil =>
      cases folded
      exact complete
  | cons op rest ih =>
      obtain ⟨first, second, behind, rfl, fewer⟩ := exists_cons_cons_of_length_eq complete
      rw [foldProducts] at folded
      split at folded
      · obtain ⟨product, -, onward⟩ := Outcome.bind_eq_ok_iff.mp folded
        have merged : (product :: behind).length = rest.length + 1 := fewer
        exact ih merged onward
      · obtain ⟨later, given, same⟩ := Outcome.bind_eq_ok_iff.mp folded
        cases same
        exact congrArg (· + 1) (ih fewer given)

theorem reduce_cons_of_tight (tight : op.bindsTighter = true) (first second : Decimal)
    (behind : List Decimal) (rest : List Operator) :
    reduce (first :: second :: behind) (op :: rest) =
      op.apply first second >>= fun product => reduce (product :: behind) rest := by
  simp only [reduce, foldProducts, tight, if_true, List.headD_cons, List.tail_cons]
  cases op.apply first second <;> rfl

/-- Where nothing but products is left, the first pass does all the work. -/
theorem foldProducts_of_tight (tight : ∀ op ∈ operators, op.bindsTighter = true)
    (complete : operands.length = operators.length + 1) :
    foldProducts operands operators =
      (reduce operands operators).map fun product => ([product], []) := by
  induction operators generalizing operands with
  | nil =>
      obtain ⟨first, rfl⟩ := List.length_eq_one_iff.mp complete
      rfl
  | cons op rest ih =>
      obtain ⟨here, later⟩ := List.forall_mem_cons.mp tight
      obtain ⟨first, second, behind, rfl, fewer⟩ := exists_cons_cons_of_length_eq complete
      simp only [reduce_cons_of_tight here, foldProducts, here, if_true, List.headD_cons,
        List.tail_cons]
      cases op.apply first second with
      | error error => rfl
      | ok product =>
          have merged : (product :: behind).length = rest.length + 1 := fewer
          exact ih later merged

/-- The first pass does not work across an addition or a subtraction. -/
theorem foldProducts_append (complete : operands.length = operators.length + 1)
    (loose : op.bindsTighter = false) :
    foldProducts (operands ++ others) (operators ++ op :: ops) =
      foldProducts operands operators >>= fun left =>
        (foldProducts others ops).map fun right =>
          (left.1 ++ right.1, left.2 ++ op :: right.2) := by
  induction operators generalizing operands with
  | nil =>
      obtain ⟨first, rfl⟩ := List.length_eq_one_iff.mp complete
      simp only [List.singleton_append, List.nil_append, foldProducts, loose]
      cases later : foldProducts others ops <;> simp [later, Except.map]
  | cons inner rest ih =>
      obtain ⟨first, second, behind, rfl, fewer⟩ := exists_cons_cons_of_length_eq complete
      simp only [List.cons_append, foldProducts, List.headD_cons, List.tail_cons]
      split
      · cases inner.apply first second with
        | error error => rfl
        | ok product =>
            have merged : (product :: behind).length = rest.length + 1 := fewer
            exact ih merged
      · rw [← List.cons_append, ih fewer]
        cases foldProducts (second :: behind) rest with
        | error error => rfl
        | ok left => cases foldProducts others ops <;> rfl

theorem foldSums_append (same : operands.length = operators.length) (total last : Decimal) :
    foldSums total (operands ++ [last]) (operators ++ [op]) =
      foldSums total operands operators >>= fun sum => op.apply sum last := by
  induction operators generalizing operands total with
  | nil =>
      cases List.eq_nil_of_length_eq_zero same
      simp only [List.nil_append, foldSums, List.headD_cons, Outcome.ok_bind]
      cases op.apply total last <;> rfl
  | cons inner rest ih =>
      obtain ⟨first, behind, rfl⟩ := List.exists_cons_of_length_eq_add_one same
      simp only [List.cons_append, foldSums, List.headD_cons, List.tail_cons]
      cases inner.apply total first with
      | error error => rfl
      | ok sum => exact ih (Nat.succ.inj same) sum

/-- One product behind an addition or a subtraction is the last summand. -/
theorem reduce_append_of_loose (complete : operands.length = operators.length + 1)
    (complete' : others.length = ops.length + 1) (loose : op.bindsTighter = false)
    (tight : ∀ inner ∈ ops, inner.bindsTighter = true) :
    reduce (operands ++ others) (operators ++ op :: ops) =
      foldProducts operands operators >>= fun left =>
        reduce others ops >>= fun product =>
          foldSums (left.1.headD 0) left.1.tail left.2 >>= fun sum => op.apply sum product := by
  rw [reduce, foldProducts_append complete loose, foldProducts_of_tight tight complete']
  cases folded : foldProducts operands operators with
  | error error => rfl
  | ok left =>
      cases reduce others ops with
      | error error => rfl
      | ok product =>
          obtain ⟨amounts, remaining⟩ := left
          obtain ⟨first, behind, rfl⟩ :=
            List.exists_cons_of_length_eq_add_one (length_of_foldProducts complete folded)
          have same : behind.length = remaining.length :=
            Nat.succ.inj (length_of_foldProducts complete folded)
          exact foldSums_append same first product

/-- One operand behind a multiplication or a division is the last factor. -/
theorem reduce_append_of_tight (complete : operands.length = operators.length + 1)
    (tight : ∀ inner ∈ operators ++ [op], inner.bindsTighter = true) (last : Decimal) :
    reduce (operands ++ [last]) (operators ++ [op]) =
      reduce operands operators >>= fun product => op.apply product last := by
  induction operators generalizing operands with
  | nil =>
      obtain ⟨first, rfl⟩ := List.length_eq_one_iff.mp complete
      have here : op.bindsTighter = true := tight op List.mem_cons_self
      rw [List.singleton_append, List.nil_append, reduce_cons_of_tight here]
      show _ = op.apply first last
      cases op.apply first last <;> rfl
  | cons inner rest ih =>
      obtain ⟨here, later⟩ := List.forall_mem_cons.mp tight
      obtain ⟨first, second, behind, rfl, fewer⟩ := exists_cons_cons_of_length_eq complete
      simp only [List.cons_append, reduce_cons_of_tight here]
      cases inner.apply first second with
      | error error => rfl
      | ok product =>
          have merged : (product :: behind).length = rest.length + 1 := fewer
          exact ih merged later

/-- An operator that binds no more tightly than those left of it, and less tightly than those right
of it, is applied last. -/
theorem toOption_reduce_append (complete : operands.length = operators.length + 1)
    (complete' : others.length = ops.length + 1)
    (notWeaker : ∀ inner ∈ operators, op.strength ≤ inner.strength)
    (stronger : ∀ inner ∈ ops, op.strength < inner.strength) :
    (reduce (operands ++ others) (operators ++ op :: ops)).toOption =
      (reduce operands operators).toOption.bind fun left =>
        (reduce others ops).toOption.bind (op.result? left) := by
  cases sort : op.bindsTighter with
  | false =>
      have products : ∀ inner ∈ ops, inner.bindsTighter = true := fun inner listed =>
        Operator.bindsTighter_iff.mpr (Nat.lt_of_le_of_lt op.strength_pos (stronger inner listed))
      have whole : reduce operands operators = foldProducts operands operators >>= fun left =>
        foldSums (left.1.headD 0) left.1.tail left.2 := rfl
      rw [reduce_append_of_loose complete complete' sort products, whole]
      simp only [Outcome.toOption_bind, Operator.toOption_apply, Option.bind_assoc]
      -- the last product is worked out before the sum in front of it
      congr 1
      funext left
      exact Option.bind_comm _ _
  | true =>
      have tight : 1 < op.strength := Operator.bindsTighter_iff.mp sort
      have factors : ∀ inner ∈ operators ++ [op], inner.bindsTighter = true := by
        intro inner listed
        rcases List.mem_append.mp listed with before | last
        · exact Operator.bindsTighter_iff.mpr (tight.trans_le (notWeaker inner before))
        · rw [List.mem_singleton.mp last, sort]
      have none_behind : ops = [] := List.eq_nil_iff_forall_not_mem.mpr fun inner listed =>
        absurd (stronger inner listed) (by have := inner.strength_lt; omega)
      subst none_behind
      obtain ⟨last, rfl⟩ := List.length_eq_one_iff.mp complete'
      rw [reduce_append_of_tight complete factors, Outcome.toOption_bind]
      simp only [Operator.toOption_apply]
      rfl

end Reduce

/-! ## The value of what is read -/

namespace Expression

theorem value?_operation (amount? : Term → Option Decimal) (op : Operator)
    (left right : Expression) :
    (operation op left right).value? amount? =
      (left.value? amount?).bind fun first =>
        (right.value? amount?).bind fun second => op.result? first second := by
  cases op <;> rfl

end Expression

/-- The amount of an operand on its own. -/
def amount? (monthly : Decimal) (ask : String → Except PayError (Option Decimal)) (term : Term) :
    Option Decimal :=
  (operand? monthly ask term).toOption.join

section Value

variable {monthly : Decimal} {ask : String → Except PayError (Option Decimal)}

theorem operators_append (terms others : List Term) :
    operators (terms ++ others) = operators terms ++ operators others :=
  List.filterMap_append

theorem operators_cons_of_operand {term : Term} (isOperand : term.isOperator = false)
    (rest : List Term) : operators (term :: rest) = operators rest := by
  cases term with
  | operator op => cases isOperand
  | value reference => rfl
  | percentage percent reference => rfl

theorem operands_append (terms others : List Term) :
    operands monthly ask (terms ++ others) =
      operands monthly ask terms >>= fun amounts =>
        operands monthly ask others >>= fun further => return amounts ++ further := by
  induction terms with
  | nil =>
      show _ = operands monthly ask others >>= fun further => pure ([] ++ further)
      simp only [List.nil_append, bind_pure]
  | cons term rest ih =>
      simp only [List.cons_append, operands]
      cases operand? monthly ask term with
      | error error => rfl
      | ok operand =>
          cases operand with
          | none => exact ih
          | some amount =>
              simp only [Outcome.ok_bind, ih, bind_assoc, pure_bind]
              rfl

theorem operand?_ne_ok_none {term : Term} (isOperand : term.isOperator = false) :
    operand? monthly ask term ≠ .ok none := by
  cases term with
  | operator op => cases isOperand
  | value reference =>
      intro computed
      obtain ⟨amount, -, same⟩ := Outcome.bind_eq_ok_iff.mp computed
      cases same
  | percentage percent reference =>
      intro computed
      obtain ⟨base, -, onward⟩ := Outcome.bind_eq_ok_iff.mp computed
      obtain ⟨part, -, same⟩ := Outcome.bind_eq_ok_iff.mp onward
      cases same

/-- The operands that are reduced are those of the formula, one for each, in their order. -/
theorem forall₂_amount?_of_operands {terms : List Term} {amounts : List Decimal}
    (gathered : operands monthly ask terms = .ok amounts) :
    List.Forall₂ (fun term amount => amount? monthly ask term = some amount)
      (terms.filter fun term => !term.isOperator) amounts := by
  induction terms generalizing amounts with
  | nil =>
      cases gathered
      exact .nil
  | cons term rest ih =>
      obtain ⟨operand, given, onward⟩ := Outcome.bind_eq_ok_iff.mp gathered
      cases sort : term.isOperator with
      | true =>
          cases term with
          | operator op =>
              cases given
              exact ih onward
          | value _ => cases sort
          | percentage _ _ => cases sort
      | false =>
          cases operand with
          | none => exact absurd given (operand?_ne_ok_none sort)
          | some amount =>
              obtain ⟨others, remaining, same⟩ := Outcome.bind_eq_ok_iff.mp onward
              cases same
              have here : amount? monthly ask term = some amount := by
                rw [amount?, given]
                rfl
              rw [List.filter_cons_of_pos (by rw [sort]; rfl)]
              exact .cons here (ih remaining)

theorem Alternates.length_filter {terms : List Term} (alternates : Alternates terms) :
    (terms.filter fun term => !term.isOperator).length = (operators terms).length + 1 := by
  induction alternates with
  | operand isOperand =>
      rw [operators_cons_of_operand isOperand, List.filter_cons_of_pos (by rw [isOperand]; rfl)]
      rfl
  | operation isOperand op _ ih =>
      rw [operators_cons_of_operand isOperand, List.filter_cons_of_pos (by rw [isOperand]; rfl)]
      exact congrArg (· + 1) ih

/-- There is one operand more than operators. -/
theorem Alternates.length_operands {terms : List Term} (alternates : Alternates terms)
    {amounts : List Decimal} (gathered : operands monthly ask terms = .ok amounts) :
    amounts.length = (operators terms).length + 1 := by
  rw [← alternates.length_filter, (forall₂_amount?_of_operands gathered).length_eq]

theorem value_eq (terms : List Term) :
    value monthly ask terms =
      operands monthly ask terms >>= fun amounts => reduce amounts (operators terms) := by
  rw [value]
  congr 1
  funext amounts
  cases reduce amounts (operators terms) <;> rfl

theorem toOption_value_operand {term : Term} (isOperand : term.isOperator = false) :
    (value monthly ask [term]).toOption = amount? monthly ask term := by
  rw [value_eq, operators_cons_of_operand isOperand, amount?, operands]
  cases given : operand? monthly ask term with
  | error error => rfl
  | ok operand =>
      cases operand with
      | none => exact absurd given (operand?_ne_ok_none isOperand)
      | some amount => rfl

/-- In a tree without brackets the operators of a side bind at least as tightly as the side. -/
theorem Expression.Grouped.strength_le {expression : Expression} (grouped : expression.Grouped) :
    ∀ op ∈ operators expression.terms, expression.strength ≤ op.strength := by
  induction expression with
  | operand term =>
      rw [Expression.terms, operators_cons_of_operand grouped]
      exact List.forall_mem_nil _
  | operation op left right first second =>
      obtain ⟨leftGrouped, rightGrouped, notWeaker, stronger⟩ := grouped
      intro inner listed
      rw [Expression.terms, operators_append] at listed
      rcases List.mem_append.mp listed with before | behind
      · exact notWeaker.trans (first leftGrouped inner before)
      · rcases List.mem_cons.mp behind with rfl | after
        · exact le_rfl
        · exact stronger.le.trans (second rightGrouped inner after)

/-- The value of a formula is the value of the expression that it is read as. -/
theorem toOption_value_terms {expression : Expression} (grouped : expression.Grouped) :
    (value monthly ask expression.terms).toOption =
      expression.value? (amount? monthly ask) := by
  induction expression with
  | operand term => exact toOption_value_operand grouped
  | operation op left right first second =>
      obtain ⟨leftGrouped, rightGrouped, notWeaker, stronger⟩ := grouped
      have leftValue := first leftGrouped
      have rightValue := second rightGrouped
      rw [value_eq] at leftValue rightValue
      have between : operators (.operator op :: right.terms) = op :: operators right.terms := rfl
      have behind : operands monthly ask (.operator op :: right.terms) =
          operands monthly ask right.terms := rfl
      rw [Expression.value?_operation, ← leftValue, ← rightValue, Expression.terms, value_eq,
        operators_append, operands_append, between, behind]
      cases gathered : operands monthly ask left.terms with
      | error error => rfl
      | ok amounts =>
          cases gathered' : operands monthly ask right.terms with
          | error error => exact (Option.bind_fun_none _).symm
          | ok amounts' =>
              exact toOption_reduce_append (leftGrouped.alternates.length_operands gathered)
                (rightGrouped.alternates.length_operands gathered')
                (fun inner listed => notWeaker.trans (leftGrouped.strength_le inner listed))
                (fun inner listed => stronger.trans_le (rightGrouped.strength_le inner listed))

end Value

/-! ## The value in a run -/

/-- The amount of an operand on its own in a catalog, given the amounts known beforehand. -/
def operandAmount? (catalog : Catalog) (monthly : Decimal) (known : Amounts) :
    Term → Option Decimal :=
  amount? monthly (Plain.amount? catalog monthly known [])

section Run

variable {catalog : Catalog} {monthly : Decimal} {known : Amounts}

open Evaluation (runFrom)

theorem runFrom_operands (terms : List Term) :
    (runFrom (operands monthly (Evaluation.amount? catalog monthly []) terms) (.start known)).1 =
      operands monthly (Plain.amount? catalog monthly known []) terms :=
  (Evaluation.operands_agrees terms (.start known) (.refl catalog monthly known)).1

theorem runFrom_formula (terms : List Term) :
    (runFrom (Evaluation.formula catalog monthly terms) (.start known)).1 =
      value monthly (Plain.amount? catalog monthly known []) terms :=
  (Evaluation.formula_agrees terms (.start known) (.refl catalog monthly known)).1

end Run

open Evaluation (runFrom)

/-- A formula is accepted exactly if it is empty or alternates from an operand to an operand, and no
operand refers to the component itself. A formula that is accepted and not empty can be read as an
expression in exactly one way. Whatever catalog and store it is evaluated with, one operand more
than there are operators is reduced, each of them an operand of the formula, and the value is that
of the expression. -/
theorem validate_iff_readable (componentId : String) (terms : List Term) :
    (validate componentId terms = .ok () ↔
      (terms = [] ∨ Alternates terms) ∧
        ∀ term ∈ terms, term.componentId? ≠ some componentId) ∧
    (validate componentId terms = .ok () → terms ≠ [] →
      ∃ expression, Reads expression terms ∧ (∀ other, Reads other terms → other = expression) ∧
        ∀ (catalog : Catalog) (monthly : Decimal) (known : Amounts),
          (∀ amounts, (runFrom (operands monthly (Evaluation.amount? catalog monthly []) terms)
              (.start known)).1 = .ok amounts →
            amounts.length = (operators terms).length + 1 ∧
            List.Forall₂
              (fun term amount => operandAmount? catalog monthly known term = some amount)
              (terms.filter fun term => !term.isOperator) amounts) ∧
          (runFrom (Evaluation.formula catalog monthly terms) (.start known)).1.toOption =
            expression.value? (operandAmount? catalog monthly known)) := by
  refine ⟨validate_eq_ok_iff componentId terms, fun accepted some_term => ?_⟩
  obtain ⟨form, -⟩ := (validate_eq_ok_iff componentId terms).mp accepted
  have alternates : Alternates terms := form.resolve_left some_term
  obtain ⟨expression, reads⟩ := exists_reads alternates
  refine ⟨expression, reads, fun other again => reads.unique again, fun catalog monthly known => ?_⟩
  constructor
  · intro amounts gathered
    rw [runFrom_operands] at gathered
    exact ⟨alternates.length_operands gathered, forall₂_amount?_of_operands gathered⟩
  · rw [runFrom_formula, ← reads.terms_eq]
    exact toOption_value_terms reads.grouped

/-- Fixed components of 100 and 7, and one of nothing. -/
def smallCatalog : Catalog :=
  [.fixed "basic" "Basic" .earning (.ofWord 100), .fixed "club" "Club" .deduction (.ofWord 7),
    .fixed "none" "Nothing" .earning 0]

/-- A difference of a product, a quotient by zero and a percentage. -/
def mixedTerms : List Term :=
  [.value .ctc, .operator .subtract, .value (.component "basic"), .operator .multiply,
    .value (.component "club"), .operator .divide, .percentage (.ofWord 5) (.component "basic"),
    .operator .add, .value (.component "club"), .operator .divide, .value (.component "none")]

/-- What it means: ((1000 - ((100 * 7) / 5%)) + (7 / 0)) with the amounts put in. -/
def mixedExpression : Expression :=
  .operation .add
    (.operation .subtract (.operand (.value .ctc))
      (.operation .divide
        (.operation .multiply (.operand (.value (.component "basic")))
          (.operand (.value (.component "club"))))
        (.operand (.percentage (.ofWord 5) (.component "basic")))))
    (.operation .divide (.operand (.value (.component "club")))
      (.operand (.value (.component "none"))))

theorem validate_iff_readable_mixedTerms :
    validate "net" mixedTerms = .ok () ∧ mixedTerms ≠ [] ∧
    validate "club" mixedTerms = .error (.invalidFormula "club" .selfReference) ∧
    Reads mixedExpression mixedTerms ∧
    (∀ other, Reads other mixedTerms → other = mixedExpression) ∧
    (Evaluation.runFrom (Evaluation.formula smallCatalog (.ofWord 1000) mixedTerms)
      (.start ∅)).1.toOption = some (.ofWord 860) := by
  have accepted : validate "net" mixedTerms = .ok () := by decide
  have refused : validate "club" mixedTerms = .error (.invalidFormula "club" .selfReference) := by
    decide
  obtain ⟨expression, reads, unique, evaluated⟩ :=
    (validate_iff_readable "net" mixedTerms).2 accepted (List.cons_ne_nil _ _)
  have found := unique mixedExpression ⟨by decide, rfl⟩
  have value := (evaluated smallCatalog (.ofWord 1000) ∅).2
  subst found
  refine ⟨accepted, List.cons_ne_nil _ _, refused, reads, unique, ?_⟩
  rw [value]
  decide +kernel

end Formula

end Payslip
