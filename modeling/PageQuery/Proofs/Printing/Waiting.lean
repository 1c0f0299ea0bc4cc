import Mathlib.Algebra.Order.Floor.Div
import Mathlib.GroupTheory.GroupAction.Ring
import PageQuery.Printing.System

/-!
Waiting for a print command. A command is looked at once every interval, until it has ended or the
limit is reached; so the last look is at the limit, rounded up to whole intervals, and a command
counts as running only if it has not ended by then.
-/
namespace PageQuery

namespace RunningCommand

variable {c : RunningCommand} {limit now looks : Nat}

theorem interval_pos : 0 < interval := by decide

/-- The command ends, and does so by a moment. -/
def EndsBy (c : RunningCommand) (now : Nat) : Prop := ∃ moment ∈ c.endsAt, moment ≤ now

theorem hasEnded_iff : c.hasEnded now = true ↔ c.EndsBy now := by
  unfold hasEnded EndsBy
  cases c.endsAt with
  | none => simp
  | some moment => simp

theorem EndsBy.mono {later : Nat} (h : c.EndsBy now) (hle : now ≤ later) : c.EndsBy later := by
  obtain ⟨moment, hmoment, hnow⟩ := h
  exact ⟨moment, hmoment, hnow.trans hle⟩

theorem waitFrom_of_hasEnded (h : c.hasEnded now = true) :
    c.waitFrom limit now looks = ⟨looks + 1, some c.status⟩ := by
  rw [waitFrom, if_pos h]

theorem waitFrom_of_le (h : c.hasEnded now = false) (hlimit : limit ≤ now) :
    c.waitFrom limit now looks = ⟨looks + 1, none⟩ := by
  rw [waitFrom, if_neg (by simp [h]), if_pos hlimit]

theorem waitFrom_of_lt (h : c.hasEnded now = false) (hlimit : now < limit) :
    c.waitFrom limit now looks = c.waitFrom limit (now + interval) (looks + 1) := by
  rw [waitFrom, if_neg (by simp [h]), if_neg (by omega)]

/-- How long a command keeps the program waiting, if it could be looked at all the time. -/
def busyFor (c : RunningCommand) (limit : Nat) : Nat :=
  match c.endsAt with
  | some moment => min moment limit
  | none => limit

theorem busyFor_le (c : RunningCommand) (limit : Nat) : c.busyFor limit ≤ limit := by
  unfold busyFor
  split
  · exact Nat.min_le_right _ _
  · exact Nat.le_refl limit

theorem lt_busyFor_iff : now < c.busyFor limit ↔ c.hasEnded now = false ∧ now < limit := by
  unfold busyFor hasEnded
  cases c.endsAt with
  | none => simp
  | some moment => simp

theorem ceilDiv_busyFor_le (c : RunningCommand) (limit : Nat) :
    c.busyFor limit ⌈/⌉ interval ≤ limit ⌈/⌉ interval := by
  rw [ceilDiv_le_iff_le_mul interval_pos]
  exact (c.busyFor_le limit).trans (le_smul_ceilDiv interval_pos)

/-- Looks while the command keeps the program waiting only pass the time. -/
theorem wait_of_lt_busyFor {k : Nat} (h : ∀ j < k, interval * j < c.busyFor limit) :
    c.wait limit = c.waitFrom limit (interval * k) k := by
  induction k with
  | zero => rfl
  | succ k ih =>
    obtain ⟨hrunning, hlimit⟩ := lt_busyFor_iff.mp (h k (Nat.lt_succ_self k))
    rw [ih fun j hj => h j (Nat.lt_succ_of_lt hj), waitFrom_of_lt hrunning hlimit, Nat.mul_succ]

/-- The first look is at the start, and the last one finds the command ended iff it has ended at the
limit, rounded up to whole intervals. -/
theorem wait_eq (c : RunningCommand) (limit : Nat) :
    c.wait limit = ⟨c.busyFor limit ⌈/⌉ interval + 1,
      if c.hasEnded (interval * (limit ⌈/⌉ interval)) then some c.status else none⟩ := by
  have hbefore : ∀ j < c.busyFor limit ⌈/⌉ interval, interval * j < c.busyFor limit := by
    intro j hj
    rwa [← not_le, ceilDiv_le_iff_le_mul interval_pos, not_le] at hj
  have hcover : c.busyFor limit ≤ interval * (c.busyFor limit ⌈/⌉ interval) :=
    le_smul_ceilDiv interval_pos
  have hlast : interval * (c.busyFor limit ⌈/⌉ interval) ≤ interval * (limit ⌈/⌉ interval) :=
    Nat.mul_le_mul_left interval (c.ceilDiv_busyFor_le limit)
  rw [wait_of_lt_busyFor hbefore]
  cases hend : c.hasEnded (interval * (c.busyFor limit ⌈/⌉ interval)) with
  | true =>
    have hthen := hasEnded_iff.mpr ((hasEnded_iff.mp hend).mono hlast)
    rw [waitFrom_of_hasEnded hend, if_pos hthen]
  | false =>
    have hlimit : limit ≤ interval * (c.busyFor limit ⌈/⌉ interval) := by
      by_contra hearly
      exact absurd (lt_busyFor_iff.mpr ⟨hend, not_le.mp hearly⟩) (not_lt.mpr hcover)
    have hrounded : limit ⌈/⌉ interval ≤ c.busyFor limit ⌈/⌉ interval :=
      (ceilDiv_le_iff_le_mul interval_pos).mpr hlimit
    have heq := hlast.antisymm (Nat.mul_le_mul_left interval hrounded)
    rw [waitFrom_of_le hend hlimit, ← heq, hend]
    simp

theorem status_wait_eq_some_iff {status : ExitStatus} :
    (c.wait limit).status = some status ↔
      c.EndsBy (interval * (limit ⌈/⌉ interval)) ∧ status = c.status := by
  rw [wait_eq, ← hasEnded_iff, @eq_comm _ status]
  simp

theorem status_wait_eq_none_iff :
    (c.wait limit).status = none ↔ ¬ c.EndsBy (interval * (limit ⌈/⌉ interval)) := by
  rw [wait_eq, ← hasEnded_iff]
  simp

end RunningCommand

theorem ExitStatus.isSuccess_eq_false_iff {s : ExitStatus} :
    s.isSuccess = false ↔ (∃ n ≠ 0, s = .code n) ∨ ∃ number, s = .signal number := by
  cases s with
  | code n => simp [isSuccess]
  | signal number => simp [isSuccess]

namespace SystemPrinter

variable {σ : Type} {remember : PrintCall → σ → σ} {p : SystemPrinter} {path : Path}
  {command : RunningCommand} {host : Host σ}

/-- A request is refused only if its command was seen to fail. -/
theorem printFile_of_start (hstart : p.start path = .ok command) :
    ((p.toService remember).printFile path host).1 =
      .ok (((command.wait p.limit).status.map ExitStatus.isSuccess).getD true) := by
  simp only [toService, hstart]
  cases (command.wait p.limit).status with
  | none => rfl
  | some status => cases hsuccess : status.isSuccess <;> simp [hsuccess]

theorem printFile_eq_false_iff (hstart : p.start path = .ok command) :
    ((p.toService remember).printFile path host).1 = .ok false ↔
      ∃ status, (command.wait p.limit).status = some status ∧ status.isSuccess = false := by
  rw [printFile_of_start hstart]
  cases (command.wait p.limit).status with
  | none => simp
  | some status => simp

theorem printFile_eq_true_iff (hstart : p.start path = .ok command) :
    ((p.toService remember).printFile path host).1 = .ok true ↔
      ¬ ((p.toService remember).printFile path host).1 = .ok false := by
  rw [printFile_of_start hstart]
  simp

end SystemPrinter

/-- A command is looked at for at most one time more than whole intervals cover the limit, and its
end is seen iff it comes by the last of these looks. A request is refused iff the command was seen to
fail. -/
theorem waiting_sees_end_by_last_look (command : RunningCommand) (limit : Nat) :
    (command.wait limit).looks ≤ limit ⌈/⌉ 100 + 1 ∧
    (∀ status, (command.wait limit).status = some status ↔
      command.EndsBy (100 * (limit ⌈/⌉ 100)) ∧ status = command.status) ∧
    ((command.wait limit).status = none ↔ ¬ command.EndsBy (100 * (limit ⌈/⌉ 100))) ∧
    (command.EndsBy limit → (command.wait limit).status = some command.status) ∧
    ∀ {σ : Type} (remember : PrintCall → σ → σ) (p : SystemPrinter) (path : Path) (host : Host σ),
      p.limit = limit → p.start path = .ok command →
        (((p.toService remember).printFile path host).1 = .ok false ↔
          command.EndsBy (100 * (limit ⌈/⌉ 100)) ∧
            ((∃ n ≠ 0, command.status = .code n) ∨ ∃ number, command.status = .signal number)) ∧
        (((p.toService remember).printFile path host).1 = .ok true ↔
          ¬ (command.EndsBy (100 * (limit ⌈/⌉ 100)) ∧
            ((∃ n ≠ 0, command.status = .code n) ∨ ∃ number, command.status = .signal number))) := by
  have hlooks : (command.wait limit).looks ≤ limit ⌈/⌉ RunningCommand.interval + 1 := by
    rw [RunningCommand.wait_eq]
    exact Nat.succ_le_succ (command.ceilDiv_busyFor_le limit)
  refine ⟨hlooks, fun _ => RunningCommand.status_wait_eq_some_iff,
    RunningCommand.status_wait_eq_none_iff, ?_, ?_⟩
  · intro hend
    have hlast : limit ≤ RunningCommand.interval * (limit ⌈/⌉ RunningCommand.interval) :=
      le_smul_ceilDiv RunningCommand.interval_pos
    exact RunningCommand.status_wait_eq_some_iff.mpr ⟨hend.mono hlast, rfl⟩
  · rintro σ remember p path host rfl hstart
    have hrefused : ((p.toService remember).printFile path host).1 = .ok false ↔
        command.EndsBy (100 * (p.limit ⌈/⌉ 100)) ∧
          ((∃ n ≠ 0, command.status = .code n) ∨ ∃ number, command.status = .signal number) := by
      rw [SystemPrinter.printFile_eq_false_iff hstart, ← ExitStatus.isSuccess_eq_false_iff]
      simp only [RunningCommand.status_wait_eq_some_iff, RunningCommand.interval]
      constructor
      · rintro ⟨status, ⟨hend, rfl⟩, hfailed⟩
        exact ⟨hend, hfailed⟩
      · rintro ⟨hend, hfailed⟩
        exact ⟨_, ⟨hend, rfl⟩, hfailed⟩
    exact ⟨hrefused, by rw [SystemPrinter.printFile_eq_true_iff hstart, hrefused]⟩

/-- A signal ends the command after the limit and before the last look. -/
theorem waiting_sees_end_by_last_look_signal :
    let command : RunningCommand := ⟨some 300, .signal 9⟩
    let p : SystemPrinter := { limit := 250, destination := .ok [], command := .ok command }
    let host : Host Unit := { files := {}, outside := () }
    (command.wait 250).looks ≤ 4 ∧ (command.wait 250).status = some (.signal 9) ∧
      ((p.toService fun _ => id).printFile (.ofText "a.pdf") host).1 = .ok false := by
  intro command p host
  have hend : command.EndsBy (100 * (250 ⌈/⌉ 100)) := ⟨300, rfl, by decide⟩
  obtain ⟨hlooks, hstatus, -, -, hprint⟩ := waiting_sees_end_by_last_look command 250
  have hstart : p.start (.ofText "a.pdf") = .ok command := by decide
  exact ⟨hlooks, (hstatus _).mpr ⟨hend, rfl⟩,
    (hprint (fun _ => id) p (.ofText "a.pdf") host rfl hstart).1.mpr ⟨hend, .inr ⟨9, rfl⟩⟩⟩

end PageQuery
