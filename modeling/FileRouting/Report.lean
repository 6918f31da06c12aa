import FileRouting.Conflict
import FileRouting.Error

/-!
# Reports

A report is the outcome of a computation together with the conflicts that were
found on the way.  Conflicts found before an error stay in the report.
-/

namespace FileRouting

/-- Conflicts in the order in which they were found, and the outcome. -/
structure Report (α : Type) where
  conflicts : List Conflict
  outcome : Except RouteError α

namespace Report

/-- A report without conflicts. -/
def ofExcept {α : Type} (outcome : Except RouteError α) : Report α :=
  ⟨[], outcome⟩

/-- Goes on with the value of a report; the conflicts of both parts are kept in
order. -/
def andThen {α β : Type} (report : Report α) (next : α → Report β) :
    Report β :=
  match report.outcome with
  | .error error => ⟨report.conflicts, .error error⟩
  | .ok value =>
      let later := next value
      ⟨report.conflicts ++ later.conflicts, later.outcome⟩

instance : Monad Report where
  pure value := ⟨[], .ok value⟩
  bind := andThen

end Report

end FileRouting
