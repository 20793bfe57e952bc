import Mathlib.Data.List.Induction

/-!
# Registers written in order of arrival

A register holds a status and further terms.  A full report sets both, and a
partial one the status alone; only a full report creates a value, if creation is
possible at all.  What the register holds in the end is read off the last report
and the last full one, whatever order the reports were made in.
-/

namespace ConferenceContact
namespace LastWriter

variable {α β : Type}

/-- A status, and the terms that come with it if the report is a full one. -/
structure Report (α β : Type) where
  status : α
  terms : Option β

/-- The register after one report. -/
def write (creates : Bool) (held : Option (α × β)) (report : Report α β) :
    Option (α × β) :=
  match held, report.terms with
  | some _, some terms => some (report.status, terms)
  | some (_, terms), none => some (report.status, terms)
  | none, some terms => if creates then some (report.status, terms) else none
  | none, none => none

/-- The status of the last report and the terms of the last full one, over those
held before. -/
def settled (held : Option (α × β)) (reports : List (Report α β)) : Option (α × β) :=
  ((reports.reverse.findSome? (·.terms)).or (held.map (·.2))).bind fun terms =>
    ((reports.getLast?.map (·.status)).or (held.map (·.1))).map fun status =>
      (status, terms)

theorem settled_nil (held : Option (α × β)) : settled held [] = held := by
  cases held <;> rfl

/-- Where there are terms to hold, there is a status. -/
theorem status_isSome
    {held : Option (α × β)}
    {reports : List (Report α β)}
    {terms : β}
    (present : (reports.reverse.findSome? (·.terms)).or (held.map (·.2)) = some terms) :
    ∃ status, (reports.getLast?.map (·.status)).or (held.map (·.1)) = some status := by
  cases last : reports.getLast? with
  | some report => exact ⟨report.status, rfl⟩
  | none =>
      rw [List.getLast?_eq_none_iff.mp last] at present
      cases held with
      | some value => exact ⟨value.1, rfl⟩
      | none => cases present

theorem write_full
    {report : Report α β}
    {terms : β}
    (full : report.terms = some terms)
    (held : Option (α × β)) :
    write true held report = some (report.status, terms) := by
  unfold write
  rw [full]
  cases held <;> rfl

/-- The last report overrides the status, and the terms if it is a full one. -/
theorem settled_concat
    (held : Option (α × β))
    (reports : List (Report α β))
    (report : Report α β) :
    settled held (reports ++ [report]) = write true (settled held reports) report := by
  unfold settled
  rw [List.reverse_append, List.reverse_singleton, List.singleton_append,
    List.findSome?_cons, List.getLast?_concat]
  cases given : report.terms with
  | some terms =>
      exact (write_full given _).symm
  | none =>
      cases present : (reports.reverse.findSome? (·.terms)).or (held.map (·.2)) with
      | none =>
          rw [Option.bind_none, Option.bind_none]
          unfold write
          rw [given]
      | some terms =>
          obtain ⟨status, known⟩ := status_isSome present
          rw [Option.bind_some, Option.bind_some, known]
          unfold write
          rw [given]
          rfl

/-- Nothing creates a value where creation is impossible. -/
@[simp] theorem write_false_none (report : Report α β) : write false none report = none := by
  unfold write
  cases report.terms <;> rfl

theorem foldl_write_none (reports : List (Report α β)) :
    reports.foldl (write false) none = none := by
  induction reports with
  | nil => rfl
  | cons report reports inductionHypothesis =>
      rw [List.foldl_cons, write_false_none, inductionHypothesis]

/-- A register that holds a value goes on holding one. -/
theorem write_some
    (creates : Bool)
    (value : α × β)
    (report : Report α β) :
    ∃ next, write creates (some value) report = some next ∧
      write true (some value) report = some next := by
  unfold write
  cases report.terms with
  | none => exact ⟨_, rfl, rfl⟩
  | some terms => exact ⟨_, rfl, rfl⟩

/-- Once a value is held, whether values can be created does not matter. -/
theorem foldl_write_some
    (creates : Bool)
    (value : α × β)
    (reports : List (Report α β)) :
    reports.foldl (write creates) (some value) = reports.foldl (write true) (some value) := by
  induction reports generalizing value with
  | nil => rfl
  | cons report reports inductionHypothesis =>
      obtain ⟨next, written, same⟩ := write_some creates value report
      rw [List.foldl_cons, List.foldl_cons, written, same, inductionHypothesis]

theorem foldl_write_eq_settled
    (held : Option (α × β))
    (reports : List (Report α β)) :
    reports.foldl (write true) held = settled held reports := by
  induction reports using List.reverseRecOn with
  | nil => exact (settled_nil held).symm
  | append_singleton reports report inductionHypothesis =>
      rw [List.foldl_append, inductionHypothesis, settled_concat]
      rfl

/-- What the register holds after a run of reports. -/
theorem foldl_write
    (creates : Bool)
    (held : Option (α × β))
    (reports : List (Report α β)) :
    reports.foldl (write creates) held =
      if held.isSome || creates then settled held reports else none := by
  cases held with
  | some value =>
      rw [foldl_write_some, foldl_write_eq_settled]
      rfl
  | none =>
      cases creates with
      | true => exact foldl_write_eq_settled none reports
      | false => exact foldl_write_none reports

end LastWriter
end ConferenceContact
