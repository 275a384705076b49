import ChartText.Command.Run

/-! # Steps of commands

A command takes its steps on a host, which is any state that they look at and change, and ends with
the first one that fails (`run_bind_ok`, `run_bind_error`). Its failure decides the exit code
(`Invocation.run_of_fail`). -/

namespace ChartText

variable {σ α β : Type}

/-! ### One step after the other -/

section
variable {step : ExceptT Failure (StateM σ) α} {next : α → ExceptT Failure (StateM σ) β} {w w' : σ}

theorem run_bind_ok {a : α} (h : step.run w = (.ok a, w')) :
    (step >>= next).run w = (next a).run w' := by
  change (ExceptT.bindCont next (step w).1) (step w).2 = _
  change step w = _ at h
  rw [h]
  rfl

theorem run_bind_error {f : Failure} (h : step.run w = (.error f, w')) :
    (step >>= next).run w = (.error f, w') := by
  change (ExceptT.bindCont next (step w).1) (step w).2 = _
  change step w = _ at h
  rw [h]
  rfl

end

theorem bind_apply {step : StateM σ α} {next : α → StateM σ β} {w : σ} :
    (step >>= next) w = next (step w).1 (step w).2 :=
  rfl

/-! ### Runs -/

theorem Failure.exitCode_of_surroundings {f : Failure} (h : f.isOfDocument = false) :
    f.exitCode = 2 := by
  simp [exitCode, h]

namespace Invocation
variable {host : Host (StateM σ)} {w w' : σ}

theorem run_of_ok (inv : Invocation) {code : Nat}
    (h : (inv.runCommand host).run w = (.ok code, w')) : inv.run host w = (code, w') := by
  change (inv.runCommand host) w = _ at h
  rw [run, bind_apply, ExceptT.run, h]
  rfl

theorem run_of_fail (inv : Invocation) {f : Failure}
    (h : (inv.runCommand host).run w = (.error f, w')) :
    inv.run host w = (f.exitCode, (inv.tell host (.ofFailure f) w').2) := by
  change (inv.runCommand host) w = _ at h
  rw [run, bind_apply, ExceptT.run, h]
  rfl

end Invocation

end ChartText
