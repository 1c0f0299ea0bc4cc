import PageQuery.Proofs.Action.Export
import PageQuery.Proofs.Pipeline

/-!
Whole runs. An export of a document of stored pages can be loaded: it holds the copied pages in
their order, and the query finds all of them again.
-/
namespace PageQuery

namespace Document

variable {σ ω : Type}

/-- A run that exports has scanned the document and copied the pages found. -/
theorem run_save_ok {d : Document σ ω} {query : Text} {settings : Settings}
    {service : PrintService σ} {occasion : Occasion} {scan : ScanOutcome} {path : Path}
    {copied : CopyReport} {s s' : Session σ}
    (h : (d.run query .save settings service occasion).run s =
      (.ok ⟨scan, some (.exported path copied)⟩, s')) :
    ∃ s₀ s₁ s₂, scan = ((d.scan (.compile query)).run s₀).1 ∧
      (d.copySelected path scan.selected).run s₁ = (.ok copied, s₂) ∧ s'.files = s₂.files := by
  rw [run_run] at h
  rcases hscan : (d.scan (.compile query)).run (s.withEntries [queryEntry query]) with ⟨found, s₁⟩
  rw [hscan] at h
  dsimp only at h
  split_ifs at h
  · cases h
  · rw [dispatch, Session.run_bind, Session.run_note] at h
    dsimp only at h
    rcases hexport : (d.exportSelected found.selected query settings.outputDir occasion.time).run _
      with ⟨result, s₂⟩
    rw [hexport] at h
    cases result with
    | error failure => cases h
    | ok outcome =>
      cases h
      cases exportRun_of_run hexport with
      | saved _ hcopy => exact ⟨_, _, _, by rw [hscan], hcopy, rfl⟩

end Document

namespace StoredDocument

variable {σ : Type}

/-- A query finds all pages of a document if it holds of each. -/
theorem scan_of_forall_accepts {d : StoredDocument} {m : Query.Matcher}
    (hlength : d.pages.length < Word.bound32)
    (h : ∀ page ∈ d.pages, ∃ t, page = .text t ∧ m.accepts t = true) (s : Session σ) :
    ((d.toDocument.scan m).run s).1.selected.numbers = List.range' 1 d.pages.length ∧
      ((d.toDocument.scan m).run s).1.failures = [] := by
  have hcount : (d.toDocument (σ := σ)).pageCount = d.pages.length := Nat.mod_eq_of_lt hlength
  have hfound := d.toDocument.hasFound_scan m s
  rw [hcount] at hfound
  have hread (page : PageNumber) (hpage : page ∈ PageNumber.range d.pages.length) :
      ∃ t, d.extractText page = .ok t ∧ m.accepts t = true := by
    have hpos := page.value_pos
    have hle := PageNumber.mem_range.mp hpage
    have hoffset : page.offset < d.pages.length := by rw [PageNumber.offset]; omega
    obtain ⟨t, htext, haccepts⟩ := h _ (List.getElem_mem hoffset)
    refine ⟨t, ?_, haccepts⟩
    rw [extractText, List.getElem?_eq_getElem hoffset, htext]
  constructor
  · have hselected : ((d.toDocument.scan m).run s).1.selected.pages =
        PageNumber.range d.pages.length := by
      rw [hfound.selected, List.filter_eq_self]
      exact fun page hpage => (d.toDocument.selects_iff m page).mpr (hread page hpage)
    rw [Selection.numbers, hselected, PageNumber.map_value_range hlength]
  · rw [hfound.failures, List.filterMap_eq_nil_iff]
    intro page hpage
    obtain ⟨t, htext, -⟩ := hread page hpage
    have hdocument : (d.toDocument (σ := σ)).extractText page = .ok t := htext
    rw [Document.failureOf, hdocument]

/-- What a run exported is loaded as the copied pages, in their order; copied and skipped pages are
together the pages found; and the query finds every page of the export, and fails on none. -/
theorem run_save_roundTrip {τ : Type} (d : StoredDocument) (query : Text) (settings : Settings)
    (service : PrintService σ) (occasion : Occasion) (s : Session σ) {scan : ScanOutcome}
    {path : Path} {copy : CopyReport} {s' : Session σ}
    (h : (d.toDocument.run query .save settings service occasion).run s =
      (.ok ⟨scan, some (.exported path copy)⟩, s')) :
    ∃ loaded, load s'.files path = .ok loaded ∧
      loaded.pages.map some = copy.copied.map (fun page => d.pages[page.offset]?) ∧
      (copy.copied ++ copy.skipped).Perm scan.selected.pages ∧
      ∀ again : Session τ,
        let found := ((loaded.toDocument.scan (.compile query)).run again).1
        found.selected.numbers = List.range' 1 copy.copied.length ∧ found.failures = [] := by
  obtain ⟨s₀, s₁, s₂, rfl, hcopy, hfiles⟩ := Document.run_save_ok h
  have hfinds := d.toDocument.findsAll_scan (.compile query) s₀
  obtain ⟨hcopied, hskipped, hload⟩ := run_copySelected_ok hcopy
  have hcopies : ∀ page ∈ copy.copied, d.copies page = true ∧
      ∃ t, d.extractText page = .ok t ∧ (Query.Matcher.compile query).accepts t = true := by
    intro page hpage
    rw [hcopied, List.mem_filter, hfinds.mem_selected] at hpage
    exact ⟨hpage.2, hpage.1.2⟩
  have hpages := map_some_keptPages (d := d) (w := { path, kept := copy.copied })
    fun page hpage => (copies_iff.mp (hcopies page hpage).1).2
  have hlength : (d.keptPages { path, kept := copy.copied }).length = copy.copied.length := by
    simpa using congrArg List.length hpages
  -- the pages of the source are counted in a word, so there are not too many to count again
  have hbound : copy.copied.length < Word.bound32 := by
    rw [hcopied]
    calc _ ≤ _ := List.length_filter_le _ _
      _ ≤ d.pages.length % Word.bound32 := d.toDocument.size_selected_scan_le (.compile query) s₀
      _ < Word.bound32 := Nat.mod_lt _ (by decide)
  refine ⟨_, hfiles ▸ hload, hpages, ?_, fun again => ?_⟩
  · rw [hcopied, hskipped]
    exact List.filter_append_perm _ _
  · rw [← hlength]
    exact scan_of_forall_accepts (hlength ▸ hbound)
      (fun _ => exists_text_of_mem_keptPages fun page hpage => (hcopies page hpage).2) again

/-- Four pages, of which the second has no text and the fourth cannot be copied. -/
def tornNotes : StoredDocument where
  path := .ofText "/notes"
  pages := [.text "Tax", .unreadable "torn", .text "tax \"2\"\n", .text "tax"]
  damaged := [⟨4, by decide, by decide⟩]

/-- The first and the third page are exported, and loaded again as they were. -/
theorem run_save_roundTrip_tornNotes :
    let third : PageNumber := ⟨3, by decide, by decide⟩
    let fourth : PageNumber := ⟨4, by decide, by decide⟩
    let found : ScanOutcome :=
      { total := 4, selected := { pages := [.first, third, fourth] }
        failures := [⟨⟨2, by decide, by decide⟩, "torn"⟩] }
    let path := Path.ofText "/notes_TAX_20240506_120000.pdf"
    let occasion : Occasion :=
      { time := { year := 2024, month := 5, day := 6, hour := 12, minute := 0, second := 0 }
        temporaryDir := .ofText "/", token := "x" }
    let s : Session Unit := { files := {}, outside := () }
    let result := (tornNotes.toDocument.run "TAX" .save {} .unsupported occasion).run s
    result.1 = .ok ⟨found, some (.exported path ⟨[.first, third], [fourth]⟩)⟩ ∧
      ∃ loaded, load result.2.files path = .ok loaded ∧
        loaded.pages.map some = [some (.text "Tax"), some (.text "tax \"2\"\n")] := by
  intro third fourth found path occasion s result
  have hresult : result.1 = .ok ⟨found, some (.exported path ⟨[.first, third], [fourth]⟩)⟩ := by
    decide +kernel
  have hsource : [.first, third].map (fun page : PageNumber => tornNotes.pages[page.offset]?) =
      [some (.text "Tax"), some (.text "tax \"2\"\n")] := by decide +kernel
  refine ⟨hresult, ?_⟩
  generalize hrun : result = outcome at hresult
  obtain ⟨value, s'⟩ := outcome
  obtain rfl : value = _ := hresult
  obtain ⟨loaded, hload, hpages, -⟩ :=
    run_save_roundTrip (τ := Unit) tornNotes "TAX" {} .unsupported occasion s hrun
  exact ⟨loaded, hload, hpages.trans hsource⟩

end StoredDocument
end PageQuery
