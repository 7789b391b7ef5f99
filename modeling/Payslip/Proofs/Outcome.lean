/-
# Outcomes of steps that may fail

A calculation is a chain of steps, each with a result or an error. This module
collects how a chain comes to a result, and singles out the failure that every chain
of arithmetic may have: a calculation that went out of range.
-/

import Payslip.PayError

namespace Payslip

namespace Outcome

variable {ε α β : Type}

@[simp]
theorem ok_bind (a : α) (next : α → Except ε β) : (Except.ok a >>= next) = next a := rfl

@[simp]
theorem error_bind (error : ε) (next : α → Except ε β) :
    (Except.error error >>= next) = Except.error error := rfl

theorem bind_eq_ok_iff {outcome : Except ε α} {next : α → Except ε β} {b : β} :
    outcome >>= next = .ok b ↔ ∃ a, outcome = .ok a ∧ next a = .ok b := by
  cases outcome with
  | ok a => simp
  | error error => simp

theorem bind_eq_error_iff {outcome : Except ε α} {next : α → Except ε β} {error : ε} :
    outcome >>= next = .error error ↔
      outcome = .error error ∨ ∃ a, outcome = .ok a ∧ next a = .error error := by
  cases outcome with
  | ok a => simp
  | error error => simp

theorem map_eq_ok_iff {outcome : Except ε α} {f : α → β} {b : β} :
    outcome.map f = .ok b ↔ ∃ a, outcome = .ok a ∧ f a = b := by
  cases outcome <;> simp [Except.map]

theorem map_eq_error_iff {outcome : Except ε α} {f : α → β} {error : ε} :
    outcome.map f = .error error ↔ outcome = .error error := by
  cases outcome <;> simp [Except.map]

theorem mapError_eq_ok_iff {ε' : Type} {outcome : Except ε α} {f : ε → ε'} {a : α} :
    outcome.mapError f = .ok a ↔ outcome = .ok a := by
  cases outcome with
  | ok b =>
      exact ⟨fun same => congrArg Except.ok (Except.ok.inj same),
        fun same => congrArg Except.ok (Except.ok.inj same)⟩
  | error error =>
      constructor
      · intro same
        cases same
      · intro same
        cases same

theorem mapError_eq_error_iff {ε' : Type} {outcome : Except ε α} {f : ε → ε'} {error : ε'} :
    outcome.mapError f = .error error ↔ ∃ cause, outcome = .error cause ∧ f cause = error := by
  cases outcome with
  | ok a =>
      constructor
      · intro same
        cases same
      · rintro ⟨cause, failed, -⟩
        cases failed
  | error cause =>
      constructor
      · intro same
        exact ⟨cause, rfl, Except.error.inj same⟩
      · rintro ⟨_, ⟨⟩, rfl⟩
        rfl

/-- Steps along a list have results only if each of them has one. -/
theorem exists_ok_of_mapM_eq_ok {step : α → Except ε β} {items : List α} {results : List β}
    (reached : items.mapM step = .ok results) : ∀ item ∈ items, ∃ b, step item = .ok b := by
  induction items generalizing results with
  | nil => intro item listed; cases listed
  | cons first rest ih =>
      rw [List.mapM_cons] at reached
      obtain ⟨b, given, onward⟩ := bind_eq_ok_iff.mp reached
      obtain ⟨others, remaining, -⟩ := bind_eq_ok_iff.mp onward
      intro item listed
      rcases List.mem_cons.mp listed with rfl | later
      · exact ⟨b, given⟩
      · exact ih remaining item later

/-- What every step brings about holds of all results. -/
theorem forall_of_mapM_eq_ok {step : α → Except ε β} {items : List α} {results : List β}
    {holds : β → Prop} (reached : items.mapM step = .ok results)
    (each : ∀ item b, step item = .ok b → holds b) : ∀ b ∈ results, holds b := by
  induction items generalizing results with
  | nil =>
      cases reached
      exact List.forall_mem_nil holds
  | cons item rest ih =>
      rw [List.mapM_cons] at reached
      obtain ⟨b, given, onward⟩ := bind_eq_ok_iff.mp reached
      obtain ⟨others, remaining, same⟩ := bind_eq_ok_iff.mp onward
      cases same
      exact List.forall_mem_cons.mpr ⟨each item b given, ih remaining⟩

theorem eq_ok_of_toOption_eq_some {outcome : Except ε α} {a : α}
    (shown : outcome.toOption = some a) : outcome = .ok a := by
  cases outcome with
  | ok b =>
      cases shown
      rfl
  | error error => cases shown

theorem toOption_bind (outcome : Except ε α) (next : α → Except ε β) :
    (outcome >>= next).toOption = outcome.toOption.bind fun a => (next a).toOption := by
  cases outcome <;> rfl

/-- Checks along a list are passed only if each of them is. -/
theorem ok_of_forM_eq_ok {check : α → Except ε PUnit} {items : List α}
    (passed : items.forM check = .ok ()) : ∀ item ∈ items, check item = .ok () := by
  induction items with
  | nil => intro item listed; cases listed
  | cons first rest ih =>
      have split : check first >>= (fun _ => rest.forM check) = .ok () := passed
      obtain ⟨_, here, onward⟩ := bind_eq_ok_iff.mp split
      intro item listed
      rcases List.mem_cons.mp listed with rfl | later
      · exact here
      · exact ih onward item later

/-- Checks along a list fail only if one of them does. -/
theorem exists_error_of_forM_eq_error {check : α → Except ε PUnit} {items : List α} {error : ε}
    (failed : items.forM check = .error error) : ∃ item ∈ items, check item = .error error := by
  induction items with
  | nil => cases failed
  | cons first rest ih =>
      have split : check first >>= (fun _ => rest.forM check) = .error error := failed
      cases here : check first with
      | error other =>
          rw [here] at split
          cases split
          exact ⟨first, List.mem_cons_self, here⟩
      | ok _ =>
          rw [here] at split
          obtain ⟨item, later, refused⟩ := ih split
          exact ⟨item, List.mem_cons_of_mem first later, refused⟩

theorem mapM_eq_ok_of_forall {step : α → Except ε β} {g : α → β} {items : List α}
    (each : ∀ item ∈ items, step item = .ok (g item)) :
    items.mapM step = .ok (items.map g) := by
  induction items with
  | nil => rfl
  | cons item rest ih =>
      have others := ih fun later listed => each later (List.mem_cons_of_mem item listed)
      rw [List.mapM_cons, each item List.mem_cons_self, others]
      rfl

theorem mapM_eq_error_of_append {step : α → Except ε β} {done rest : List α} {item : α}
    {error : ε} (passed : ∀ earlier ∈ done, ∃ b, step earlier = .ok b)
    (failed : step item = .error error) : (done ++ item :: rest).mapM step = .error error := by
  induction done with
  | nil =>
      rw [List.nil_append, List.mapM_cons, failed]
      rfl
  | cons first others ih =>
      obtain ⟨b, given⟩ := passed first List.mem_cons_self
      have onward := ih fun earlier listed => passed earlier (List.mem_cons_of_mem first listed)
      rw [List.cons_append, List.mapM_cons, given, onward]
      rfl

/-- Where each item of a list has a result there is a function that gives them. -/
theorem exists_function_of_forall [Inhabited β] {step : α → Except ε β} {items : List α}
    (each : ∀ item ∈ items, ∃ b, step item = .ok b) :
    ∃ g : α → β, ∀ item ∈ items, step item = .ok (g item) := by
  refine ⟨fun item => (step item).toOption.getD default, fun item listed => ?_⟩
  obtain ⟨b, given⟩ := each item listed
  show step item = .ok ((step item).toOption.getD default)
  rw [given]
  rfl

end Outcome

/-- If there is no result, then because a calculation went out of range. -/
def FailsInCalculation {α : Type} (outcome : Except PayError α) : Prop :=
  ∀ error, outcome = .error error → ∃ fault, error = .calculation fault

namespace FailsInCalculation

variable {α β : Type}

theorem ok (a : α) : FailsInCalculation (.ok a) := by
  intro error failed
  cases failed

theorem fault (fault : CalculationFault) :
    FailsInCalculation (.error (.calculation fault) : Except PayError α) := by
  intro error failed
  cases failed
  exact ⟨fault, rfl⟩

theorem bind {outcome : Except PayError α} {next : α → Except PayError β}
    (first : FailsInCalculation outcome) (later : ∀ a, FailsInCalculation (next a)) :
    FailsInCalculation (outcome >>= next) := by
  cases outcome with
  | ok a => exact later a
  | error error =>
      obtain ⟨fault, rfl⟩ := first error rfl
      exact .fault fault

theorem map {outcome : Except PayError α} (f : α → β) (first : FailsInCalculation outcome) :
    FailsInCalculation (outcome.map f) := by
  cases outcome with
  | ok a => exact .ok (f a)
  | error error =>
      obtain ⟨fault, rfl⟩ := first error rfl
      exact .fault fault

theorem mapM {step : α → Except PayError β} {items : List α}
    (each : ∀ item ∈ items, FailsInCalculation (step item)) :
    FailsInCalculation (items.mapM step) := by
  induction items with
  | nil => exact .ok []
  | cons item rest ih =>
      rw [List.mapM_cons]
      apply (each item List.mem_cons_self).bind
      intro first
      exact (ih fun later listed => each later (List.mem_cons_of_mem item listed)).bind
        fun others => .ok (first :: others)

theorem foldlM {step : β → α → Except PayError β} (items : List α) (total : β)
    (each : ∀ total item, FailsInCalculation (step total item)) :
    FailsInCalculation (items.foldlM step total) := by
  induction items generalizing total with
  | nil => exact .ok total
  | cons item rest ih =>
      rw [List.foldlM_cons]
      exact (each total item).bind ih

end FailsInCalculation

end Payslip
