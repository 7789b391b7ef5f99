/-
# Three ways to the value of a formula

A formula is reduced by folding its products away and then its sums, whether this is done on new
lists (`reduce`) or by merging operands where they stand (`reduceInPlace`). Both come to what the
formula means as a sum of products, with the same scale and the same error. Nothing is assumed
of the numbers of operands and operators, so this says what becomes of malformed formulas too.

`foldProducts_eq` matches the first pass with the products that the formula is cut into, which are
all of it (`products_written`). In place the difficulty is another one. Behind a malformed beginning
the position may have left the operands, and a result then goes to a place in front of its own. It
is a zero in that case, and what is missing counts as zero anyway: operands matter only by what is
read from them, their `stream`.
-/

import Mathlib.Data.List.GetD
import Payslip.Evaluation.Run
import Payslip.Formula.InPlace
import Payslip.Formula.Products
import Payslip.Proofs.Formula.Overflow

namespace Payslip.Formula

/-! ## As a sum of products -/

theorem padded_succ (amounts : List Decimal) (count : Nat) :
    padded amounts (count + 1) = amounts.headD 0 :: padded amounts.tail count := by
  cases amounts with
  | nil => simp [padded, List.replicate_succ]
  | cons amount rest =>
      simp [padded, List.take_append, List.take_replicate]
      omega

/-- Where a formula is cut does not hang on its first operand. -/
theorem products_eq (first other : Decimal) (pairs : List (Operator × Decimal)) :
    products first pairs =
      ⟨⟨first, (products other pairs).first.factors⟩, (products other pairs).others⟩ := by
  cases pairs with
  | nil => rfl
  | cons pair rest =>
      obtain ⟨op, operand⟩ := pair
      cases op <;> rfl

/-- The factor as it is written in a formula. -/
def Factor.written : Factor → Operator × Decimal
  | .times amount => (.multiply, amount)
  | .dividedBy amount => (.divide, amount)

/-- The operator by which a sign is written in a formula. -/
def Sign.operator : Sign → Operator
  | .plus => .add
  | .minus => .subtract

/-- An operator that binds tighter makes a factor of the operand behind it. -/
theorem exists_products_of_bindsTighter {op : Operator} (tight : op.bindsTighter = true)
    (operand : Decimal) : ∃ factor : Factor, factor.written = (op, operand) ∧ ∀ first rest,
      products first ((op, operand) :: rest) =
        ⟨⟨first, factor :: (products operand rest).first.factors⟩,
          (products operand rest).others⟩ := by
  cases op with
  | add | subtract => cases tight
  | multiply => exact ⟨.times operand, rfl, fun _ _ => rfl⟩
  | divide => exact ⟨.dividedBy operand, rfl, fun _ _ => rfl⟩

/-- Any other operator ends the product in front of it. -/
theorem exists_products_of_not_bindsTighter {op : Operator} (loose : ¬ op.bindsTighter = true) :
    ∃ sign : Sign, sign.operator = op ∧ ∀ first operand rest,
      products first ((op, operand) :: rest) =
        ⟨⟨first, []⟩, (sign, (products operand rest).first) :: (products operand rest).others⟩ := by
  cases op with
  | add => exact ⟨.plus, rfl, fun _ _ _ => rfl⟩
  | subtract => exact ⟨.minus, rfl, fun _ _ _ => rfl⟩
  | multiply | divide => exact absurd rfl loose

/-- A sum of products as it is written in a formula, behind its first operand. -/
def SumOf.written (sum : SumOf Product) : List (Operator × Decimal) :=
  sum.first.factors.map Factor.written ++ sum.others.flatMap fun (sign, product) =>
    (sign.operator, product.first) :: product.factors.map Factor.written

/-- A formula that is cut into products is the formula that these make when they are written. -/
theorem products_written (first : Decimal) (pairs : List (Operator × Decimal)) :
    (products first pairs).first.first = first ∧ (products first pairs).written = pairs := by
  induction pairs generalizing first with
  | nil => exact ⟨rfl, rfl⟩
  | cons pair rest ih =>
      obtain ⟨op, operand⟩ := pair
      obtain ⟨begins, later⟩ := ih operand
      rw [SumOf.written] at later
      by_cases tight : op.bindsTighter = true
      · obtain ⟨factor, written, cut⟩ := exists_products_of_bindsTighter tight operand
        rw [cut]
        exact ⟨rfl, by simp [SumOf.written, written, later]⟩
      · obtain ⟨sign, written, cut⟩ := exists_products_of_not_bindsTighter tight
        rw [cut]
        exact ⟨rfl, by simp [SumOf.written, written, begins, later]⟩

/-- What a factor does is what is carried out for the operator by which it is written. -/
theorem apply_written (factor : Factor) (result : Decimal) :
    factor.written.1.apply result factor.written.2 = factor.apply result := by
  cases factor with
  | times amount => rfl
  | dividedBy amount =>
      show Operator.apply .divide result amount = Factor.apply result (.dividedBy amount)
      rw [Operator.apply, Operator.result?, Factor.apply]
      by_cases zero : amount.isZero = true
      · rw [if_pos zero, if_pos zero]
      · rw [if_neg zero, if_neg zero]
        rfl

theorem apply_operator (sign : Sign) (sum amount : Decimal) :
    sign.operator.apply sum amount = sign.apply sum amount := by
  cases sign <;> rfl

theorem values_multiply (first : Decimal) (factor : Factor) (sum : SumOf Product) :
    SumOf.values ⟨⟨first, factor :: sum.first.factors⟩, sum.others⟩ =
      factor.apply first >>= fun result =>
        SumOf.values ⟨⟨result, sum.first.factors⟩, sum.others⟩ := by
  simp only [SumOf.values, Product.value, List.foldlM_cons]
  cases factor.apply first <;> rfl

/-- Amounts as they are left when the products are folded away. -/
def SumOf.remaining (sum : SumOf Decimal) : Decimal × List (Operator × Decimal) :=
  (sum.first, sum.others.map fun (sign, amount) => (sign.operator, amount))

theorem values_add (first : Decimal) (sign : Sign) (sum : SumOf Product) :
    (SumOf.values ⟨⟨first, []⟩, (sign, sum.first) :: sum.others⟩).map SumOf.remaining =
      (sum.values.map SumOf.remaining).map fun values =>
        (first, (sign.operator, values.1) :: values.2) := by
  simp only [SumOf.values, List.mapM_cons]
  cases sum.first.value with
  | error error => rfl
  | ok value =>
      cases (List.mapM _ sum.others : Except PayError (List (Sign × Decimal))) with
      | error error => rfl
      | ok others => rfl

/-- The first pass leaves the values of the products, and zeros where operands are missing. -/
theorem foldProducts_eq (operands : List Decimal) (operators : List Operator) :
    (foldProducts operands operators).map
        (fun left => (left.1.headD 0, left.2.zip (padded left.1.tail left.2.length))) =
      (products (operands.headD 0)
        (operators.zip (padded operands.tail operators.length))).values.map SumOf.remaining := by
  induction operators generalizing operands with
  | nil => rfl
  | cons op rest ih =>
      simp only [List.length_cons, padded_succ, List.zip_cons_cons, foldProducts]
      by_cases tight : op.bindsTighter = true
      · obtain ⟨factor, written, cut⟩ :=
          exists_products_of_bindsTighter tight (operands.tail.headD 0)
        have applied := apply_written factor (operands.headD 0)
        rw [written] at applied
        rw [if_pos tight, cut, values_multiply, ← applied]
        cases op.apply (operands.headD 0) (operands.tail.headD 0) with
        | error error => rfl
        | ok result =>
            have onward := ih (result :: operands.tail.tail)
            rw [products_eq _ (operands.tail.headD 0)] at onward
            exact onward
      · obtain ⟨sign, written, cut⟩ := exists_products_of_not_bindsTighter tight
        rw [if_neg tight, cut, values_add, written, ← ih operands.tail]
        cases foldProducts operands.tail rest with
        | error error => rfl
        | ok left =>
            show Except.ok (_, (op :: left.2).zip (padded left.1 (left.2.length + 1))) = _
            rw [padded_succ]
            rfl

/-- The second pass adds the summands from left to right. -/
theorem foldSums_eq (result : Decimal) (operands : List Decimal) (operators : List Operator) :
    foldSums result operands operators =
      (operators.zip (padded operands operators.length)).foldlM
        (fun result (op, summand) => op.apply result summand) result := by
  induction operators generalizing result operands with
  | nil => rfl
  | cons op rest ih =>
      simp only [foldSums, List.length_cons, padded_succ, List.zip_cons_cons, List.foldlM_cons]
      cases op.apply result (operands.headD 0) with
      | error error => rfl
      | ok sum => exact ih sum operands.tail

theorem total_eq (sum : SumOf Decimal) :
    sum.total =
      sum.remaining.2.foldlM (fun result (op, summand) => op.apply result summand)
        sum.remaining.1 := by
  simp only [SumOf.total, SumOf.remaining, List.foldlM_map, apply_operator]

theorem reduce_eq_sumOfProducts (operands : List Decimal) (operators : List Operator) :
    reduce operands operators = sumOfProducts operands operators := by
  have whole : sumOfProducts operands operators =
      (products (operands.headD 0)
        (operators.zip (padded operands.tail operators.length))).values.map SumOf.remaining >>=
          fun values =>
            values.2.foldlM (fun result (op, summand) => op.apply result summand) values.1 := by
    simp only [sumOfProducts, padded_succ, List.headD_cons, List.tail_cons, total_eq]
    cases (products _ _).values <;> rfl
  rw [whole, ← foldProducts_eq, reduce]
  cases foldProducts operands operators with
  | error error => rfl
  | ok left => exact foldSums_eq _ _ _

/-! ## In place -/

/-- What is read from operands: zero where they are missing. -/
def stream (operands : List Decimal) (index : Nat) : Decimal := operands.getD index 0

theorem stream_append_of_lt {front : List Decimal} {index : Nat} (inside : index < front.length)
    (rest : List Decimal) : stream (front ++ rest) index = stream front index :=
  List.getD_append front rest 0 index inside

theorem stream_append_add (front rest : List Decimal) (index : Nat) :
    stream (front ++ rest) (front.length + index) = stream rest index := by
  rw [stream, List.getD_append_right front rest 0 _ (Nat.le_add_right _ _),
    Nat.add_sub_cancel_left, stream]

theorem stream_of_le {operands : List Decimal} {index : Nat} (beyond : operands.length ≤ index) :
    stream operands index = 0 :=
  List.getD_eq_default operands 0 beyond

theorem stream_zero (operands : List Decimal) : stream operands 0 = operands.headD 0 := by
  cases operands <;> rfl

theorem stream_tail (operands : List Decimal) (index : Nat) :
    stream operands.tail index = stream operands (index + 1) := by
  cases operands <;> rfl

/-- A zero behind all operands is not noticed. -/
theorem stream_append_zero (operands : List Decimal) : stream (operands ++ [0]) = stream operands := by
  funext index
  rcases Nat.lt_or_ge index operands.length with inside | beyond
  · exact stream_append_of_lt inside [0]
  · obtain ⟨further, rfl⟩ := Nat.exists_eq_add_of_le beyond
    rw [stream_append_add, stream_of_le beyond]
    cases further <;> rfl

/-- The operand at a position stands in front of those behind it. -/
theorem stream_append_headD (front operands : List Decimal) :
    stream (front ++ [operands.headD 0] ++ operands.tail) = stream (front ++ operands) := by
  cases operands with
  | nil =>
      rw [List.tail_nil, List.append_nil, List.append_nil]
      exact stream_append_zero front
  | cons operand rest => simp

/-- Merging two operands puts the result in the place of the first of them, and those behind move up
by one. A result that goes to the end, where there was no operand, is zero. -/
theorem stream_putAt_eraseIdx {operands : List Decimal} {position : Nat} {result : Decimal}
    (nothing : operands.length ≤ position → result = 0) (index : Nat) :
    stream (putAt (operands.eraseIdx (position + 1)) position result) index =
      if index < position then stream operands index
      else if index = position then result
      else stream operands (index + 1) := by
  rcases Nat.lt_or_ge position operands.length with inside | beyond
  · have room : position < (operands.eraseIdx (position + 1)).length := by
      rw [List.length_eraseIdx]
      split <;> omega
    rw [putAt, if_pos room]
    simp only [stream, List.getD_eq_getElem?_getD, List.getElem?_set, List.getElem?_eraseIdx]
    grind
  · have untouched : operands.eraseIdx (position + 1) = operands :=
      List.eraseIdx_of_length_le (by omega)
    rw [untouched, putAt, if_neg (by omega), nothing beyond, stream_append_zero]
    split
    · rfl
    · rw [stream_of_le (by omega), stream_of_le (by omega), ite_self]

theorem stream_merged {front operands ahead : List Decimal} {result : Decimal}
    (same : stream operands = stream (front ++ ahead))
    (nothing : operands.length ≤ front.length → result = 0) :
    stream (putAt (operands.eraseIdx (front.length + 1)) front.length result) =
      stream (front ++ result :: ahead.tail.tail) := by
  funext index
  rw [stream_putAt_eraseIdx nothing, same]
  rcases Nat.lt_trichotomy index front.length with before | rfl | behind
  · rw [if_pos before, stream_append_of_lt before, stream_append_of_lt before]
  · rw [if_neg (Nat.lt_irrefl _), if_pos rfl]
    exact (stream_append_add front (result :: ahead.tail.tail) 0).symm
  · obtain ⟨further, rfl⟩ := Nat.exists_eq_add_of_lt behind
    rw [if_neg (by omega), if_neg (by omega)]
    calc stream (front ++ ahead) (front.length + (further + 2))
        = stream ahead (further + 2) := stream_append_add front ahead (further + 2)
      _ = stream ahead.tail.tail further := by rw [stream_tail, stream_tail]
      _ = stream (front ++ result :: ahead.tail.tail) (front.length + (further + 1)) :=
          (stream_append_add front (result :: ahead.tail.tail) (further + 1)).symm

section Cases

variable {operands : List Decimal} {operators : List Operator} {position : Nat} {op : Operator}

theorem mergeFrom_of_getElem?_eq_none (missing : operators[position]? = none) :
    mergeFrom position operands operators = .ok (operands, operators) := by
  rw [mergeFrom]
  split
  · rfl
  · simp_all

theorem mergeFrom_of_bindsTighter (found : operators[position]? = some op)
    (tight : op.bindsTighter = true) :
    mergeFrom position operands operators =
      op.apply (stream operands position) (stream operands (position + 1)) >>= fun result =>
        mergeFrom position (putAt (operands.eraseIdx (position + 1)) position result)
          (operators.eraseIdx position) := by
  rw [mergeFrom]
  split
  · simp_all
  · next other same =>
    cases found.symm.trans same
    exact if_pos tight

theorem mergeFrom_of_not_bindsTighter (found : operators[position]? = some op)
    (loose : ¬ op.bindsTighter = true) :
    mergeFrom position operands operators = mergeFrom (position + 1) operands operators := by
  rw [mergeFrom]
  split
  · simp_all
  · next other same =>
    cases found.symm.trans same
    exact if_neg loose

end Cases

/-- What the first pass leaves, as far as it is read. -/
def leftover (left : List Decimal × List Operator) : (Nat → Decimal) × List Operator :=
  (stream left.1, left.2)

/-- The first pass in place, with some operands and operators behind it: it leaves these as they are
and does to the others what the pass on new lists does. -/
theorem leftover_mergeFrom (rest : List Operator) {done : List Operator}
    {front operands ahead : List Decimal} (aligned : front.length = done.length)
    (same : stream operands = stream (front ++ ahead)) :
    (mergeFrom front.length operands (done ++ rest)).map leftover =
      (foldProducts ahead rest).map fun left => leftover (front ++ left.1, done ++ left.2) := by
  induction rest generalizing done front operands ahead with
  | nil =>
      rw [mergeFrom_of_getElem?_eq_none (by simp [aligned])]
      simp [foldProducts, Except.map, leftover, same]
  | cons op rest ih =>
      have found : (done ++ op :: rest)[front.length]? = some op := by simp [aligned]
      by_cases tight : op.bindsTighter = true
      · have first : stream operands front.length = ahead.headD 0 := by
          rw [same, ← stream_zero]
          exact stream_append_add front ahead 0
        have second : stream operands (front.length + 1) = ahead.tail.headD 0 := by
          rw [same, stream_append_add, ← stream_tail, stream_zero]
        have taken : (done ++ op :: rest).eraseIdx front.length = done ++ rest := by
          rw [aligned, List.eraseIdx_append_of_length_le (Nat.le_refl _), Nat.sub_self,
            List.eraseIdx_cons_zero]
        rw [mergeFrom_of_bindsTighter found tight, foldProducts, if_pos tight, first, second, taken]
        cases applied : op.apply (ahead.headD 0) (ahead.tail.headD 0) with
        | error error => rfl
        | ok result =>
            have nothing : operands.length ≤ front.length → result = 0 := by
              intro beyond
              rw [← first, ← second, stream_of_le beyond, stream_of_le (by omega),
                op.apply_zero] at applied
              exact (Except.ok.inj applied).symm
            exact ih aligned (stream_merged same nothing)
      · have passed : (front ++ [ahead.headD 0]).length = (done ++ [op]).length := by simp [aligned]
        have onward := ih passed (same.trans (stream_append_headD front ahead).symm)
        rw [mergeFrom_of_not_bindsTighter found tight, foldProducts, if_neg tight]
        simp only [List.length_append, List.length_singleton, List.append_assoc,
          List.singleton_append] at onward
        rw [onward]
        cases foldProducts ahead.tail rest with
        | error error => rfl
        | ok left => rfl

/-- The second pass on what is read of the operands. -/
def totalOf (left : (Nat → Decimal) × List Operator) : Except PayError Decimal :=
  left.2.zipIdx.foldlM (fun result (op, index) => op.apply result (left.1 (index + 1))) (left.1 0)

theorem foldSums_eq_zipIdx (amounts : Nat → Decimal) (operators : List Operator) (passed : Nat)
    {operands : List Decimal} (result : Decimal)
    (ahead : ∀ index, stream operands index = amounts (passed + index + 1)) :
    foldSums result operands operators =
      (operators.zipIdx passed).foldlM
        (fun result (op, index) => op.apply result (amounts (index + 1))) result := by
  induction operators generalizing passed operands result with
  | nil => rfl
  | cons op rest ih =>
      have first : operands.headD 0 = amounts (passed + 1) := by
        rw [← stream_zero]
        exact ahead 0
      simp only [foldSums, List.zipIdx_cons, List.foldlM_cons, first]
      congr 1
      funext sum
      apply ih
      intro index
      rw [stream_tail, ahead]
      congr 1
      omega

/-- Reducing in place is reducing. -/
theorem reduceInPlace_eq_reduce (operands : List Decimal) (operators : List Operator) :
    reduceInPlace operands operators = reduce operands operators := by
  have nothing : ([] : List Decimal).length = ([] : List Operator).length := rfl
  have passes : (mergeFrom 0 operands operators).map leftover =
      (foldProducts operands operators).map leftover :=
    leftover_mergeFrom operators nothing rfl
  have inPlace : reduceInPlace operands operators =
      (mergeFrom 0 operands operators).map leftover >>= totalOf := by
    rw [reduceInPlace]
    cases mergeFrom 0 operands operators <;> rfl
  rw [inPlace, passes, reduce]
  cases foldProducts operands operators with
  | error error => rfl
  | ok left =>
      show totalOf (leftover left) = foldSums (left.1.headD 0) left.1.tail left.2
      rw [foldSums_eq_zipIdx (stream left.1) left.2 0 _ fun index => by
        rw [stream_tail, Nat.zero_add], ← stream_zero]
      rfl

/-! ## The operands and operators of a formula -/

section Terms

variable {m : Type → Type} [Monad m] [LawfulMonad m] [MonadExceptOf PayError m]

theorem operand?_eq (monthly : Decimal) (ask : String → m (Option Decimal)) (term : Term) :
    operand? monthly ask term = match share? term with
      | none => pure none
      | some share => some <$> share.amount monthly ask := by
  cases term with
  | operator op => rfl
  | value reference =>
      cases reference <;> simp [operand?, share?, Share.amount, Reference.amount]
  | percentage percent reference =>
      cases reference <;> simp [operand?, share?, Share.amount, Reference.amount]

/-- Every operand is evaluated, in the order of the formula. -/
theorem operands_eq_mapM (monthly : Decimal) (ask : String → m (Option Decimal))
    (terms : List Term) :
    operands monthly ask terms = (terms.filterMap share?).mapM (Share.amount monthly ask) := by
  induction terms with
  | nil => simp [operands]
  | cons term rest ih =>
      rw [operands, operand?_eq, List.filterMap_cons]
      cases share? term with
      | none => simp [ih]
      | some share => simp [ih]

theorem operators_eq_filterMap (terms : List Term) :
    operators terms = terms.filterMap Term.operator? := by
  rw [operators]
  congr
  funext term
  cases term <;> rfl

end Terms

/-- Operands and operators of any number have the value of a sum of products, with its scale and
with its errors, whether they are reduced on new lists or in place. A formula is therefore worth the
sum of its products: all its operands are evaluated, those beyond the last operator do not count,
and those that are missing count as zero. -/
theorem formula_eq_sumOfProducts :
    (∀ operands operators,
      reduceInPlace operands operators = sumOfProducts operands operators ∧
        reduce operands operators = sumOfProducts operands operators) ∧
    ∀ (catalog : Catalog) (ctc : Decimal) (terms : List Term),
      Evaluation.formula catalog (monthlyShare ctc) terms = (do
        let amounts ← (terms.filterMap share?).mapM <|
          Share.amount (monthlyShare ctc) (Evaluation.amount? catalog (monthlyShare ctc) [])
        MonadExcept.ofExcept (sumOfProducts amounts (terms.filterMap Term.operator?))) := by
  constructor
  · intro operands operators
    have meaning := reduce_eq_sumOfProducts operands operators
    exact ⟨(reduceInPlace_eq_reduce operands operators).trans meaning, meaning⟩
  · intro catalog ctc terms
    simp only [Evaluation.formula, value, operands_eq_mapM, operators_eq_filterMap,
      reduce_eq_sumOfProducts]

end Payslip.Formula
