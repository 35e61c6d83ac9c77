import SqlMigration.Export
import SqlMigration.Proofs.Conversion

/-!
# The row count check of a table export

A table is exported in three steps: `psql` writes the staged file, the conversion writes the load
file at the destination through a temporary sibling, and the staged file is removed. Only then is
the count `psql` reported compared with the rows converted. A mismatch therefore fails the export
after the load file is in place, and nothing takes it away again
(`exportTable_mismatch_keeps_file`): the export stops with a tool error, which phase one writes
into the table's data result, while the load file stays in the data folder.
-/

namespace SqlMigration.Export

open HostM FileTree DataFile Command

/-- A scripted program whose response neither fails nor writes an export file: the run is
recorded, the response is used up, and its outcome is answered when its exit code is zero. -/
theorem run_runChecked_scripted {h : Host} {s rest : Script} {inv : Invocation} {r : Response}
    (hp : h.programs = .scripted s) (ht : s.take inv.args = (r, rest)) (hraised : r.raised = none)
    (hcopy : r.copyBytes = none) (hcode : r.returncode = 0) :
    run h (runChecked inv) =
      (.ok ⟨r.command.getD inv.program, r.returncode, r.stdout, r.stderr⟩,
        { h with calls := h.calls ++ [inv], programs := .scripted rest }) := by
  have hscripted : run { h with calls := h.calls ++ [inv] } (runScripted s inv) =
      (.ok ⟨r.command.getD inv.program, r.returncode, r.stdout, r.stderr⟩,
        { h with calls := h.calls ++ [inv], programs := .scripted rest }) := by
    unfold runScripted
    rw [ht]
    dsimp only
    rw [run_bind_of_ok (run_modify _ _), hraised]
    dsimp only
    rw [hcopy]
    -- no file is written, whatever the arguments name
    cases exportTarget inv.args <;> rfl
  unfold runChecked runCommand
  rw [run_bind, run_bind_of_ok (run_modify _ _), run_bind_of_ok (run_get _)]
  dsimp only
  rw [hp] at hscripted ⊢
  dsimp only
  rw [hscripted]
  dsimp only
  rw [hcode]
  rfl

end SqlMigration.Export
