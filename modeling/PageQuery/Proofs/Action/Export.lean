import PageQuery.Action.Dispatch
import PageQuery.Proofs.Action.Copying
import PageQuery.Proofs.Action.Names
import PageQuery.Proofs.Document.Pdf
import PageQuery.Proofs.Document.Scripted
import PageQuery.Proofs.Document.Stored

/-!
Exports: the ways through an export, and what is left behind when one fails.
-/
namespace PageQuery

/-- What the line about a saved document begins with. -/
def savedWords : Text := "filtered document saved: "

/-- The line about a saved document. -/
def savedLine (path : Path) : ReportLine := ⟨.info, savedWords ++ path.render⟩

namespace Document

variable {σ ω : Type} {d : Document σ ω} {selected : Selection} {query : Text}
  {directory : Option Path} {time : Timestamp} {s s' : Session σ}

def exportPath (d : Document σ ω) (files : FileTree) (directory : Option Path) (query : Text)
    (time : Timestamp) : Path :=
  Naming.exportPath files d.path directory query time d.extension

/-- A name is left for an export of a document. -/
def NameLeft (d : Document σ ω) (files : FileTree) (directory : Option Path) (query : Text)
    (time : Timestamp) : Prop :=
  Naming.NameLeft files d.path directory query time d.extension

theorem nameLeft_of_entries (d : Document σ ω) {files : FileTree}
    (hentries : files.entries.length < Naming.numberCount) (directory : Option Path) (query : Text)
    (time : Timestamp) : d.NameLeft files directory query time :=
  Naming.nameLeft_of_entries hentries d.path directory query time

variable (d selected query directory time s) in
/-- An export, as a relation between the start and the end of a run: the document is announced, or
an attempt is made to remove what there is of it. -/
inductive ExportRun : Except Failure Outcome → Session σ → Prop
  | saved {path copied s₁} (hpath : path = d.exportPath s.files directory query time)
      (hcopy : (d.copySelected path selected).run s = (.ok copied, s₁)) :
      ExportRun (.ok (.exported path copied)) (s₁.withEntries [.line (savedLine path)])
  | failed {path failure s₁ s'} (hpath : path = d.exportPath s.files directory query time)
      (hcopy : (d.copySelected path selected).run s = (.error failure, s₁))
      (hfiles : s'.files = s₁.files.afterRemoval path)
      (hreport : s'.journal.report = s₁.journal.report) :
      ExportRun (.error failure) s'

theorem exportRun_of_run {result : Except Failure Outcome}
    (h : (d.exportSelected selected query directory time).run s = (result, s')) :
    ExportRun d selected query directory time s result s' := by
  rw [exportSelected, Session.run_bind, Session.run_get] at h
  simp only [Session.run_bind] at h
  rcases hcopy : (d.copySelected (d.exportPath s.files directory query time) selected).run s with
    ⟨copying, s₁⟩
  rw [← exportPath, hcopy] at h
  cases copying with
  | ok copied =>
    cases h
    exact .saved rfl hcopy
  | error failure =>
    simp only [Session.run_bind, Session.run_removeIfThere] at h
    cases hremove : s₁.files.removeIfThere (d.exportPath s.files directory query time) with
    | ok removed =>
      simp only [hremove, Except.map, Session.run_pure] at h
      obtain ⟨rfl, rfl⟩ := Prod.mk.inj h
      exact .failed rfl hcopy (by simp) (by simp)
    | error e =>
      simp only [hremove, Except.map, Session.run_bind, Session.run_note, Session.run_pure] at h
      obtain ⟨rfl, rfl⟩ := Prod.mk.inj h
      exact .failed rfl hcopy (by simp) (by simp)

theorem head?_savedWords : savedWords.head? = some 'f' := by decide +kernel

/-- A message with another first letter does not begin with the words about a saved document. -/
theorem not_savedWords_prefix {message start : Text} {c : Char} (hmessage : start <+: message)
    (hstart : start.head? = some c) (hne : c ≠ 'f') : ¬ savedWords <+: message := by
  rintro ⟨rest, hwords⟩
  obtain ⟨rest', hrest'⟩ := hmessage
  have hf : message.head? = some 'f' := by rw [← hwords, List.head?_append, head?_savedWords]; rfl
  have hc : message.head? = some c := by rw [← hrest', List.head?_append, hstart]; rfl
  rw [hf] at hc
  cases hc
  exact hne rfl

theorem not_savedWords_prefix_copyingLine (selected : Selection) :
    ¬ savedWords <+: (copyingLine selected).message := by
  have hstart : ("copying pages: " : Text).head? = some 'c' := by decide +kernel
  exact not_savedWords_prefix (List.prefix_append _ _) hstart (by decide)

theorem not_savedWords_prefix_skipLine (page : PageNumber) (failure : Failure) :
    ¬ savedWords <+: (skipLine page failure).message := by
  have hstart : ("error while copying page " : Text).head? = some 'e' := by decide +kernel
  simp only [skipLine, List.append_assoc]
  exact not_savedWords_prefix (List.prefix_append _ _) hstart (by decide)

/-- A failed export leaves the files as they were, if there are fewer than there are numbers for
names. The failure is the one that ended the copying, and nothing is said about a saved document. -/
theorem dispatch_save_error_restores {σ : Type} :
    (∀ d : StoredDocument, (d.toDocument (σ := σ)).WritesBy FileTree.ChangesFileAt) ∧
    (∀ (lib : PdfLibrary) (d : PdfDocument lib),
      (d.toDocument (σ := σ)).WritesBy FileTree.ChangesFileAt) ∧
    ∀ {ω : Type} (d : Document σ ω) (settings : Settings) (service : PrintService σ)
      (occasion : Occasion) (selected : Selection) (query : Text) (s s' : Session σ)
      (failure : Failure), d.WritesBy FileTree.ChangesFileAt →
      s.files.entries.length < Naming.numberCount →
      (d.dispatch settings service occasion .save selected query).run s = (.error failure, s') →
      (∃ entries, FailureSource d (d.exportPath s.files settings.outputDir query occasion.time)
        selected (s.withEntries entries) failure) ∧
      (∃ lines, s'.journal.report = s.journal.report ++ lines ∧
        ∀ line ∈ lines, ¬ savedWords <+: line.message) ∧
      s.files.Alike s'.files := by
  refine ⟨fun d => d.savesFile_toDocument.toWritesBy,
    fun lib d => d.savesFile_toDocument.toWritesBy, ?_⟩
  intro ω d settings service occasion selected query s s' failure hd hentries hrun
  have hleft := d.nameLeft_of_entries hentries settings.outputDir query occasion.time
  simp only [dispatch, Session.run_bind, Session.run_note] at hrun
  cases exportRun_of_run hrun with
  | @failed path _ s₁ _ hpath hcopy hfiles hreport =>
    rw [Session.withEntries_files] at hpath
    subst hpath
    set path := d.exportPath s.files settings.outputDir query occasion.time
    have hselection := selectionRun_of_run hcopy
    rw [Session.withEntries_withEntries] at hselection
    refine ⟨⟨_, hselection.failureSource⟩, ?_, ?_⟩
    · obtain ⟨skips, hskips⟩ := hselection.exists_report
      refine ⟨copyingLine selected :: skips.map fun k => skipLine k.1 k.2, ?_, ?_⟩
      · rw [hreport, hskips]
        simp
      · simp only [List.mem_cons, List.mem_map]
        rintro line (rfl | ⟨skip, -, rfl⟩)
        · exact not_savedWords_prefix_copyingLine selected
        · exact not_savedWords_prefix_skipLine skip.1 skip.2
    · have hfree : s.files.pathExists path = false := Naming.not_pathExists_exportPath hleft
      have hchanges := changesFileAt_of_run_copySelected hd hcopy hfree
      rw [hfiles]
      exact hchanges.alike_afterRemoval hfree

/-- Three pages, of which the first is left out and the third ends the copying. -/
def brokenNotes : ScriptedDocument where
  path := .ofText "/notes.pdf"
  pages := [.ok "a", .ok "b", .ok "c"]
  copyFailures := [(1, .copy .first "torn"), (3, .settings "lost")]

/-- The plain name is taken by an older export, which stays. -/
theorem dispatch_save_error_restores_brokenNotes :
    let selected : Selection :=
      { pages := [.first, ⟨2, by decide, by decide⟩, ⟨3, by decide, by decide⟩] }
    let occasion : Occasion :=
      { time := { year := 2024, month := 5, day := 6, hour := 12, minute := 0, second := 0 }
        temporaryDir := .ofText "/", token := "x" }
    let s : Session Unit :=
      { files := { entries := [([Text.encode "notes_a_b_20240506_120000.pdf"], .file [1])] }
        outside := () }
    let result :=
      (brokenNotes.toDocument.dispatch {} .unsupported occasion .save selected "a&b").run s
    result.1 = .error (.settings "lost") ∧ s.files.Alike result.2.files := by
  intro selected occasion s result
  have hresult : result.1 = .error (.settings "lost") := by decide +kernel
  have hwrites : (brokenNotes.toDocument (σ := Unit)).WritesBy FileTree.ChangesFileAt :=
    ScriptedDocument.writesBy_toDocument (by decide)
  have hentries : s.files.entries.length < Naming.numberCount := by decide
  refine ⟨hresult, ?_⟩
  generalize hrun : result = outcome at hresult ⊢
  obtain ⟨value, s'⟩ := outcome
  obtain rfl : value = _ := hresult
  exact (dispatch_save_error_restores.2.2 _ {} .unsupported occasion selected "a&b" s s' _ hwrites
    hentries hrun).2.2

end Document
end PageQuery
