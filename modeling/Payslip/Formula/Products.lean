/-
# A formula as a sum of products

Additions and subtractions cut a formula into products, pieces in which there is nothing but
multiplication and division. The value of a formula is the sum of its products: first every product
is worked out from left to right, and then they are added and subtracted from left to right. Each
operator takes the operand behind it, so a formula has room for one operand more than it has
operators. Those beyond are ignored, and those that are missing are zero.

This is what the operators mean, so nothing here hangs on how a formula is reduced: which operators
make a product, what each of them does to two amounts and with which error, and what an operand is
worth are told on their own.
-/

import Payslip.Formula.Reduction

namespace Payslip

/-- The operator that a term is. -/
def Term.operator? : Term → Option Operator
  | .operator op => some op
  | .value _ | .percentage _ _ => none

namespace Formula

/-! ## Operands -/

/-- A share in what is referred to: so many percent of it, or all of it. -/
structure Share where
  reference : Reference
  percent : Option Decimal
  deriving DecidableEq, Repr

/-- What an operand stands for. -/
def share? : Term → Option Share
  | .operator _ => none
  | .value reference => some ⟨reference, none⟩
  | .percentage percent reference => some ⟨reference, some percent⟩

/-- The amount of a share. A component that does not exist counts as zero. -/
def Share.amount {m : Type → Type} [Monad m] [MonadExceptOf PayError m] (monthly : Decimal)
    (ask : String → m (Option Decimal)) (share : Share) : m Decimal := do
  let base ← match share.reference with
    | .ctc => pure monthly
    | .component id => pure ((← ask id).getD 0)
  match share.percent with
  | none => return base
  | some percent => MonadExcept.ofExcept (percentOf base percent)

/-! ## Products and sums -/

/-- A result, if it is in range. -/
def inRange (result : Option Decimal) (fault : CalculationFault) : Except PayError Decimal :=
  match result with
  | some amount => .ok amount
  | none => .error (.calculation fault)

/-- One step of a product. -/
inductive Factor
  | times (amount : Decimal)
  | dividedBy (amount : Decimal)
  deriving DecidableEq, Repr

/-- Multiplies by a factor or divides by it. Dividing by zero gives zero. -/
def Factor.apply (result : Decimal) : Factor → Except PayError Decimal
  | .times amount => inRange (result.mul? amount) (.operation .multiply result amount)
  | .dividedBy amount =>
    if amount.isZero then .ok 0
    else inRange (result.div? amount) (.operation .divide result amount)

/-- An amount, and what it is multiplied and divided by. -/
structure Product where
  first : Decimal
  factors : List Factor
  deriving DecidableEq, Repr

/-- The value of a product, strictly from left to right. -/
def Product.value (product : Product) : Except PayError Decimal :=
  product.factors.foldlM Factor.apply product.first

/-- What happens to a summand. -/
inductive Sign
  | plus
  | minus
  deriving DecidableEq, Repr

/-- Adds an amount to a sum, or subtracts it. -/
def Sign.apply (sign : Sign) (sum amount : Decimal) : Except PayError Decimal :=
  match sign with
  | .plus => inRange (sum.add? amount) (.operation .add sum amount)
  | .minus => inRange (sum.sub? amount) (.operation .subtract sum amount)

/-- A first summand, and others with their signs. -/
structure SumOf (α : Type) where
  first : α
  others : List (Sign × α)
  deriving DecidableEq, Repr

/-- The total of amounts, strictly from left to right. -/
def SumOf.total (sum : SumOf Decimal) : Except PayError Decimal :=
  sum.others.foldlM (fun total (sign, amount) => sign.apply total amount) sum.first

/-- The values of products, from left to right. -/
def SumOf.values (sum : SumOf Product) : Except PayError (SumOf Decimal) := do
  let first ← sum.first.value
  let others ← sum.others.mapM fun (sign, product) => return (sign, ← product.value)
  return { first, others }

/-! ## A formula -/

/-- The first so many amounts, with zeros in the place of missing ones. -/
def padded (amounts : List Decimal) (count : Nat) : List Decimal :=
  (amounts ++ List.replicate count 0).take count

/-- Cuts a formula at every addition and subtraction. -/
def products (first : Decimal) : List (Operator × Decimal) → SumOf Product
  | [] => ⟨⟨first, []⟩, []⟩
  | (op, operand) :: rest =>
    let ⟨product, others⟩ := products operand rest
    match op with
    | .add => ⟨⟨first, []⟩, (.plus, product) :: others⟩
    | .subtract => ⟨⟨first, []⟩, (.minus, product) :: others⟩
    | .multiply => ⟨⟨first, .times operand :: product.factors⟩, others⟩
    | .divide => ⟨⟨first, .dividedBy operand :: product.factors⟩, others⟩

/-- The value of operands and operators as a sum of products. All products come first, so a product
out of range is told before a sum out of range. -/
def sumOfProducts (operands : List Decimal) (operators : List Operator) :
    Except PayError Decimal := do
  let amounts := padded operands (operators.length + 1)
  let summands ← (products (amounts.headD 0) (operators.zip amounts.tail)).values
  summands.total

end Formula

end Payslip
