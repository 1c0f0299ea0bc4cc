import PageQuery.Printing.Scripted
import PageQuery.Proofs.Session

/-!
What printers may do to the files. Scripted printers, whatever they reply, touch nothing but what
stands at the path that they are given.
-/
namespace PageQuery

variable {σ : Type}

/-- A printer that leaves the files alone when it is probed, and changes them by printing only in a
way that depends on the path. -/
structure PrintService.ChangesBy (service : PrintService σ)
    (Changes : Path → FileTree → FileTree → Prop) : Prop where
  probe (h : Host σ) : (service.probe h).2.files = h.files
  printFile (path : Path) (h : Host σ) : Changes path h.files (service.printFile path h).2.files

theorem PrintService.ChangesBy.mono {service : PrintService σ}
    {Changes Changes' : Path → FileTree → FileTree → Prop} (h : service.ChangesBy Changes)
    (himp : ∀ {path t t'}, Changes path t t' → Changes' path t t') : service.ChangesBy Changes' :=
  ⟨h.probe, fun path host => himp (h.printFile path host)⟩

theorem PrintService.ChangesBy.files_of_probe {service : PrintService σ}
    {Changes : Path → FileTree → FileTree → Prop} (h : service.ChangesBy Changes)
    {s s' : Session σ} {entries : Journal} {probe : Probe}
    (hprobe : (Session.ask .probe service.probe).run (s.withEntries entries) = (probe, s')) :
    s'.files = s.files := by
  rw [Session.files_of_ask hprobe, h.probe, Session.host_files, Session.withEntries_files]

namespace ScriptedPrinter

theorem changesAt_leave (reply : PrintReply) (path : Path) (files : FileTree) :
    files.ChangesAt path (leave reply path files) := by
  have hsame := FileTree.changesAt_refl path files
  cases reply with
  | accept => exact hsame
  | reject => exact hsame
  | fail failure => exact hsame
  | remove =>
    rw [leave]
    cases hremove : files.remove path with
    | error e => exact hsame
    | ok removed => exact FileTree.changesAt_remove hremove
  | block =>
    have hblock {removed : FileTree} (hremoved : files.ChangesAt path removed)
        (hplace : removed.place path = files.place path) :
        files.ChangesAt path (((removed.makeDirectory path).toOption).getD removed) := by
      cases hmake : removed.makeDirectory path with
      | error e => exact hremoved
      | ok blocked =>
        have hmade := FileTree.changesAt_makeDirectory hmake
        exact FileTree.ChangesOnly.trans hremoved
          (hmade.mono fun key => (FileTree.names_congr hplace key).mp)
    rw [leave]
    cases hremove : files.remove path with
    | error e => exact hblock hsame rfl
    | ok removed =>
      exact hblock (FileTree.changesAt_remove hremove) (FileTree.place_of_remove hremove)

theorem changesBy_toService (p : ScriptedPrinter) (remember : Submission → σ → σ) :
    (p.toService remember).ChangesBy FileTree.ChangesAt :=
  ⟨fun _ => rfl, fun path h => changesAt_leave p.reply path h.files⟩

end ScriptedPrinter
end PageQuery
