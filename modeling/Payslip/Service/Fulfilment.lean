/-
# What the service does for a request

The calculations behind the requests, once these have been read: employees are admitted, working
days default to those of the configuration, and every failure turns into a refusal.
-/

import Payslip.Configuration
import Payslip.Description
import Payslip.Payroll
import Payslip.Service.Admission
import Payslip.Service.Refusal

namespace Payslip.Service

open Payslip.Reading

/-- Admits an employee or refuses the request. -/
def admitted (employee : Employee) : Except Refusal Employee :=
  (accept employee).mapError fun fault => .invalid fault.message

/-- The breakdown that is asked for. -/
def BreakdownRequest.fulfil (request : BreakdownRequest) (configuration : Configuration) :
    Except Refusal Breakdown := do
  let employee ← admitted request.employee
  let workingDays := request.workingDays.getD configuration.metadata.workingDays
  let salaryStructure ← (configuration.structureFor employee).mapError .ofError
  (Breakdown.calculate employee salaryStructure configuration.components
    (some workingDays)).mapError .ofError

/-- The payroll that is asked for. -/
def PayrollRequest.fulfil (request : PayrollRequest) (configuration : Configuration) :
    Except Refusal Payroll := do
  let employees ← request.employees.mapM admitted
  let workingDays := request.workingDays.getD configuration.metadata.workingDays
  (Payroll.calculate employees configuration.structures configuration.components
    (some workingDays)).mapError .ofError

/-- A component as it is listed: without what it is computed from, but with a description. -/
def summary (catalog : Catalog) (component : Component) : Document :=
  .ofFields
    [("id", .ofText component.id),
      ("name", .ofText component.name),
      ("component_type", .ofText component.kind.name),
      ("component_category", .ofText component.category.name),
      ("apply_lop_deduction", .bool component.prorated),
      ("description", .ofText (component.describe catalog))]

/-- The list of components. -/
def listing (configuration : Configuration) : Document :=
  .ofFields
    [("currency", .ofText configuration.metadata.currency),
      ("components", .ofList (configuration.components.map (summary configuration.components)))]

end Payslip.Service
