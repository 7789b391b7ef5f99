import Payslip.Breakdown
import Payslip.Component
import Payslip.Configuration
import Payslip.Currency
import Payslip.Decimal.Arithmetic
import Payslip.Decimal.Basic
import Payslip.Decimal.Division
import Payslip.Decimal.Rounding
import Payslip.Decimal.Text
import Payslip.Description
import Payslip.Employee
import Payslip.Evaluation.Plain
import Payslip.Evaluation.Pursuit
import Payslip.Evaluation.Run
import Payslip.Evaluation.Value
import Payslip.Formula.Expression
import Payslip.Formula.InPlace
import Payslip.Formula.Products
import Payslip.Formula.Reduction
import Payslip.Formula.Term
import Payslip.Formula.WrittenTerm
import Payslip.Json.Parsing
import Payslip.Json.Printing
import Payslip.Json.Token
import Payslip.Number.Binary64
import Payslip.Number.Power
import Payslip.Number.Value
import Payslip.PayError
import Payslip.Payroll
import Payslip.Proofs.Alike
import Payslip.Proofs.Breakdown.Amounts
import Payslip.Proofs.Breakdown.Balance
import Payslip.Proofs.Breakdown.Comparison
import Payslip.Proofs.Breakdown.CostToCompany
import Payslip.Proofs.Breakdown.ExactSums
import Payslip.Proofs.Breakdown.Itemization
import Payslip.Proofs.Breakdown.Locality
import Payslip.Proofs.Breakdown.Numbers
import Payslip.Proofs.Breakdown.Once
import Payslip.Proofs.Breakdown.Order
import Payslip.Proofs.Breakdown.Overflow
import Payslip.Proofs.Breakdown.Passes
import Payslip.Proofs.Breakdown.PercentageOfCtc
import Payslip.Proofs.Breakdown.Proration
import Payslip.Proofs.Breakdown.Reload
import Payslip.Proofs.Breakdown.UnpaidLeave
import Payslip.Proofs.Configuration
import Payslip.Proofs.Currency
import Payslip.Proofs.Decimal.Monotone
import Payslip.Proofs.Decimal.Nearest
import Payslip.Proofs.Decimal.PlainNumber
import Payslip.Proofs.Decimal.Precision
import Payslip.Proofs.Decimal.Quotient
import Payslip.Proofs.Decimal.Rounding
import Payslip.Proofs.Decimal.Text
import Payslip.Proofs.Decimal.Value
import Payslip.Proofs.Evaluation.Asked
import Payslip.Proofs.Evaluation.Contract
import Payslip.Proofs.Evaluation.Correspondence
import Payslip.Proofs.Evaluation.Cycle
import Payslip.Proofs.Evaluation.Dependency
import Payslip.Proofs.Evaluation.Growth
import Payslip.Proofs.Evaluation.Inquiry
import Payslip.Proofs.Evaluation.Once
import Payslip.Proofs.Evaluation.Preservation
import Payslip.Proofs.Evaluation.Reach
import Payslip.Proofs.Evaluation.Session
import Payslip.Proofs.Evaluation.Termination
import Payslip.Proofs.Formula.Grammar
import Payslip.Proofs.Formula.Meaning
import Payslip.Proofs.Formula.MonthlyPercentage
import Payslip.Proofs.Formula.Numbers
import Payslip.Proofs.Formula.Overflow
import Payslip.Proofs.Formula.PercentageText
import Payslip.Proofs.Formula.Reduction
import Payslip.Proofs.Formula.Remainder
import Payslip.Proofs.Formula.Rounded
import Payslip.Proofs.Formula.WrittenTerm
import Payslip.Proofs.Json.Reparsing
import Payslip.Proofs.Json.Token
import Payslip.Proofs.Outcome
import Payslip.Proofs.Payroll
import Payslip.Proofs.Payroll.Conservation
import Payslip.Proofs.Payroll.Order
import Payslip.Proofs.Reading.Quotation
import Payslip.Proofs.Reading.Record
import Payslip.Proofs.Service.Answer
import Payslip.Proofs.Service.Batch
import Payslip.Proofs.Service.Classification
import Payslip.Proofs.Service.Report
import Payslip.Proofs.Service.ValidatedCatalog
import Payslip.Proofs.Text.Utf8
import Payslip.Proofs.Validation.Outline
import Payslip.Proofs.Validation.Safety
import Payslip.Proofs.Validation.Settling
import Payslip.Proofs.Validation.Verdict
import Payslip.Proofs.Wire.Rereading
import Payslip.Reading.Document
import Payslip.Reading.Fault
import Payslip.Reading.Reader
import Payslip.Reading.Record
import Payslip.Reference
import Payslip.Service.Admission
import Payslip.Service.Body
import Payslip.Service.Exchange
import Payslip.Service.Fulfilment
import Payslip.Service.MediaType
import Payslip.Service.Refusal
import Payslip.Service.Report
import Payslip.Text.Blank
import Payslip.Text.Digits
import Payslip.Text.Utf8
import Payslip.Timestamp
import Payslip.Uuid
import Payslip.Validation
import Payslip.Wire.Basic
import Payslip.Wire.Breakdown
import Payslip.Wire.Component
import Payslip.Wire.Employee
import Payslip.Yaml.Cursor
import Payslip.Yaml.Parsing
import Payslip.Yaml.Scalar
import Payslip.Yaml.Token
