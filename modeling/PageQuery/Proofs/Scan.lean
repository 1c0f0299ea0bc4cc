import PageQuery.Document.Scripted
import PageQuery.Proofs.Page.Selection
import PageQuery.Proofs.Session
import PageQuery.Scan

/-!
Scans. A scan looks at each page once: what it finds is the run of a step on the pages in order, and
what it says is what it says of each page in turn. From this follow the pages selected, the failures
recorded, and that the pages do not touch each other's results.
-/
namespace PageQuery

theorem Failure.extractionCause_eq_iff (failure : Failure) (cause : Text) :
    failure.extractionCause = cause ↔
      (∃ page, failure = .extraction page cause) ∨
        (∀ page inner, failure ≠ .extraction page inner) ∧ failure.message = cause := by
  cases failure <;> simp [extractionCause]

namespace Document

variable {σ ω : Type}

/-- Whether a page can be read and the query holds of it. -/
def selects (d : Document σ ω) (m : Query.Matcher) (page : PageNumber) : Bool :=
  match d.extractText page with
  | .ok t => m.accepts t
  | .error _ => false

/-- What a scan records of a page that cannot be read. -/
def failureOf (d : Document σ ω) (page : PageNumber) : Option PageFailure :=
  match d.extractText page with
  | .ok _ => none
  | .error failure => some ⟨page, failure.extractionCause⟩

/-- What is found after one more page. -/
def foundWith (d : Document σ ω) (m : Query.Matcher) (found : ScanOutcome) (page : PageNumber) :
    ScanOutcome :=
  { found with
    selected := if d.selects m page then (found.selected.push page).2 else found.selected
    failures := found.failures ++ (d.failureOf page).toList }

end Document

/-- What the user is told of a page that cannot be read. -/
def PageFailure.line (failure : PageFailure) : ReportLine :=
  ⟨.warning, "error while processing page " ++ failure.page.render ++ ": " ++ failure.cause⟩

namespace Document

variable {σ ω : Type} (d : Document σ ω) (m : Query.Matcher)

/-- What a scan enters into the journal for one page. -/
def scanEntries (page : PageNumber) : Journal :=
  (d.extractionLog page).map .record ++
    match d.extractText page with
    | .ok t =>
      if m.accepts t then [.record ⟨.debug, .scan,
        "page " ++ page.render ++ " matches " ++ m.expression.render⟩] else []
    | .error failure => [.record ⟨.warn, .scan,
        "skipping page " ++ page.render ++ ": " ++ failure.extractionCause⟩,
        .line (PageFailure.line ⟨page, failure.extractionCause⟩)]

theorem run_scanPages_cons (found : ScanOutcome) (page : PageNumber) (more : List PageNumber)
    (s : Session σ) :
    (d.scanPages m found (page :: more)).run s =
      (d.scanPages m (d.foundWith m found page) more).run
        (s.withEntries (d.scanEntries m page)) := by
  rw [scanPages, Session.run_bind, Session.run_record]
  cases htext : d.extractText page with
  | ok t =>
    have hmatch : d.pageMatches m page = .ok (m.accepts t) := by rw [pageMatches, htext]; rfl
    rw [hmatch]
    cases haccepts : m.accepts t with
    | true =>
      simp only [Session.run_bind, Session.run_note, Session.withEntries_withEntries, foundWith,
        selects, failureOf, scanEntries, htext, haccepts, ↓reduceIte, Option.toList_none,
        List.append_nil]
    | false =>
      simp only [foundWith, selects, failureOf, scanEntries, htext, haccepts, Bool.false_eq_true,
        ↓reduceIte, Option.toList_none, List.append_nil]
  | error failure =>
    have hmatch : d.pageMatches m page = .error failure := by rw [pageMatches, htext]; rfl
    rw [hmatch]
    simp only [Session.run_bind, Session.run_note, Session.run_report,
      Session.withEntries_withEntries, foundWith, selects, failureOf, scanEntries, htext,
      Bool.false_eq_true, ↓reduceIte, Option.toList_some, PageFailure.line, List.append_assoc,
      List.singleton_append]

/-- A scan of pages finds what the pages add one after another, and leaves all but the journal. -/
theorem run_scanPages (found : ScanOutcome) (pages : List PageNumber) (s : Session σ) :
    (d.scanPages m found pages).run s =
      (pages.foldl (d.foundWith m) found, s.withEntries (pages.flatMap (d.scanEntries m))) := by
  induction pages generalizing found s with
  | nil =>
    rw [List.flatMap_nil, Session.withEntries_nil]
    rfl
  | cons page more ih => simp [run_scanPages_cons, ih]

/-- What has been found when the pages `seen` are behind a scan. -/
structure HasFound (seen : List PageNumber) (found : ScanOutcome) : Prop where
  selected : found.selected.pages = seen.filter (d.selects m)
  failures : found.failures = seen.filterMap d.failureOf

variable {d m}

theorem HasFound.canPush {seen : List PageNumber} {found : ScanOutcome} {page : PageNumber}
    (h : d.HasFound m seen found) (hlt : ∀ q ∈ seen, q < page) :
    found.selected.canPush page = true := by
  apply Selection.canPush_iff_forall_lt.mpr
  intro q hq
  rw [h.selected] at hq
  exact hlt q (List.mem_of_mem_filter hq)

/-- One page further, if the pages ascend. -/
theorem HasFound.foundWith {seen : List PageNumber} {found : ScanOutcome} {page : PageNumber}
    (h : d.HasFound m seen found) (hlt : ∀ q ∈ seen, q < page) :
    d.HasFound m (seen ++ [page]) (d.foundWith m found page) where
  selected := by
    cases hs : d.selects m page with
    | true =>
      have hpush := Selection.push_of_canPush (h.canPush hlt)
      simp [Document.foundWith, hs, hpush, h.selected]
    | false => simp [Document.foundWith, hs, h.selected]
  failures := by
    cases hf : d.failureOf page <;> simp [Document.foundWith, hf, h.failures]

theorem HasFound.foldl {seen pages : List PageNumber} {found : ScanOutcome}
    (h : d.HasFound m seen found) (hasc : (seen ++ pages).Pairwise (· < ·)) :
    d.HasFound m (seen ++ pages) (pages.foldl (d.foundWith m) found) := by
  induction pages generalizing seen found with
  | nil => simpa using h
  | cons page more ih =>
    have hlt : ∀ q ∈ seen, q < page := fun q hq =>
      (List.pairwise_append.mp hasc).2.2 q hq page List.mem_cons_self
    rw [List.append_cons] at hasc ⊢
    exact ih (h.foundWith hlt) hasc

variable (d m)

theorem total_foldl (pages : List PageNumber) (found : ScanOutcome) :
    (pages.foldl (d.foundWith m) found).total = found.total := by
  induction pages generalizing found with
  | nil => rfl
  | cons page more ih => exact ih (d.foundWith m found page)

/-- The first pages of a document, all scanned. -/
theorem hasFound_scanPages {seen : List PageNumber} (hasc : seen.Pairwise (· < ·)) (total : Nat)
    (s : Session σ) : d.HasFound m seen ((d.scanPages m { total } seen).run s).1 := by
  have hempty : d.HasFound m [] { total } := ⟨rfl, rfl⟩
  rw [run_scanPages]
  exact hempty.foldl hasc

/-- The line with which a scan begins. -/
def scanLine : ReportLine :=
  ⟨.info, "searching " ++ Text.ofNat d.pageCount ++ " pages..."⟩

theorem run_scan (s : Session σ) :
    (d.scan m).run s = (d.scanPages m { total := d.pageCount } (PageNumber.range d.pageCount)).run
      (s.withEntries [.line d.scanLine]) := rfl

theorem total_scan (s : Session σ) : ((d.scan m).run s).1.total = d.pageCount := by
  rw [run_scan, run_scanPages, total_foldl]

theorem hasFound_scan (s : Session σ) :
    d.HasFound m (PageNumber.range d.pageCount) ((d.scan m).run s).1 := by
  rw [run_scan]
  exact d.hasFound_scanPages m (PageNumber.pairwise_range _) _ _

theorem size_selected_scan_le (s : Session σ) :
    ((d.scan m).run s).1.selected.size ≤ d.pageCount := by
  rw [Selection.size, (d.hasFound_scan m s).selected]
  exact Nat.le_trans (List.length_filter_le _ _) (PageNumber.length_range_le _)

theorem report_scanEntries (page : PageNumber) :
    (d.scanEntries m page).report = ((d.failureOf page).map PageFailure.line).toList := by
  rw [scanEntries, Journal.report_append, Journal.report_map_record, List.nil_append, failureOf]
  cases d.extractText page with
  | ok t => cases h : m.accepts t <;> simp [h]
  | error failure => simp

/-- A scan says how many pages it looks at, and then which of them it could not read. -/
theorem report_scan (s : Session σ) :
    ((d.scan m).run s).2.journal.report =
      s.journal.report ++ d.scanLine :: ((d.scan m).run s).1.failures.map PageFailure.line := by
  have hlines (pages : List PageNumber) : Journal.report (pages.flatMap (d.scanEntries m)) =
      (pages.filterMap d.failureOf).map PageFailure.line := by
    rw [Journal.report_flatMap, List.map_filterMap, List.filterMap_eq_flatMap_toList]
    simp only [report_scanEntries]
  rw [(d.hasFound_scan m s).failures, ← hlines, run_scan, run_scanPages]
  simp

/-- What a scan has to find: the pages of which the query holds, and why the others could not be
read. A failure stands under the page that was asked for; a failed extraction is recorded with its
cause and any other failure with its message. -/
structure FindsAll (found : ScanOutcome) : Prop where
  total : found.total = d.pageCount
  mem_selected (page : PageNumber) : page ∈ found.selected.pages ↔
    page.value ≤ d.pageCount ∧ ∃ t, d.extractText page = .ok t ∧ m.accepts t = true
  selected_ascending : found.selected.pages.Pairwise (· < ·)
  mem_failures (entry : PageFailure) : entry ∈ found.failures ↔
    entry.page.value ≤ d.pageCount ∧ ∃ failure, d.extractText entry.page = .error failure ∧
      ((∃ named, failure = .extraction named entry.cause) ∨
        (∀ named inner, failure ≠ .extraction named inner) ∧ failure.message = entry.cause)
  failures_ascending : found.failures.Pairwise fun entry next => entry.page < next.page
  disjoint : ∀ entry ∈ found.failures, entry.page ∉ found.selected.pages

theorem selects_iff (page : PageNumber) :
    d.selects m page = true ↔ ∃ t, d.extractText page = .ok t ∧ m.accepts t = true := by
  unfold selects
  cases d.extractText page <;> simp

theorem failureOf_eq_some_iff (page : PageNumber) (entry : PageFailure) :
    d.failureOf page = some entry ↔
      entry.page = page ∧ ∃ failure, d.extractText entry.page = .error failure ∧
        failure.extractionCause = entry.cause := by
  unfold failureOf
  constructor
  · intro h
    cases htext : d.extractText page with
    | ok t => simp [htext] at h
    | error failure =>
      rw [htext] at h
      obtain rfl := Option.some.inj h
      exact ⟨rfl, failure, htext, rfl⟩
  · rintro ⟨rfl, failure, htext, hcause⟩
    rw [htext]
    exact congrArg (fun cause => some (⟨entry.page, cause⟩ : PageFailure)) hcause

variable {d m} in
/-- What has been found when all pages are behind a scan. -/
theorem HasFound.findsAll {found : ScanOutcome} (htotal : found.total = d.pageCount)
    (h : d.HasFound m (PageNumber.range d.pageCount) found) : d.FindsAll m found where
  total := htotal
  mem_selected page := by
    rw [h.selected, List.mem_filter, PageNumber.mem_range, selects_iff]
  selected_ascending := found.selected.ascending
  mem_failures entry := by
    simp only [h.failures, List.mem_filterMap, PageNumber.mem_range, failureOf_eq_some_iff,
      ← Failure.extractionCause_eq_iff]
    constructor
    · rintro ⟨page, hpage, rfl, hfailure⟩
      exact ⟨hpage, hfailure⟩
    · rintro ⟨hpage, hfailure⟩
      exact ⟨entry.page, hpage, rfl, hfailure⟩
  failures_ascending := by
    rw [h.failures, List.pairwise_filterMap]
    refine (PageNumber.pairwise_range _).imp ?_
    intro page next hlt entry hentry entry' hentry'
    rw [((d.failureOf_eq_some_iff page entry).mp hentry).1,
      ((d.failureOf_eq_some_iff next entry').mp hentry').1]
    exact hlt
  disjoint := by
    intro entry hentry hselected
    rw [h.failures, List.mem_filterMap] at hentry
    obtain ⟨page, -, hfailure⟩ := hentry
    obtain ⟨-, failure, herror, -⟩ := (d.failureOf_eq_some_iff page entry).mp hfailure
    rw [h.selected, List.mem_filter, selects_iff] at hselected
    obtain ⟨-, t, hok, -⟩ := hselected
    rw [herror] at hok
    cases hok

theorem findsAll_scan (s : Session σ) : d.FindsAll m ((d.scan m).run s).1 :=
  (d.hasFound_scan m s).findsAll (d.total_scan m s)

end Document

namespace Document

variable {σ σ' ω ω' : Type}

/-- Pages on which two documents agree are found alike in both. -/
theorem FindsAll.congr {d : Document σ ω} {d' : Document σ' ω'} {m : Query.Matcher}
    {found found' : ScanOutcome} (h : d.FindsAll m found) (h' : d'.FindsAll m found')
    (hcount : d'.pageCount = d.pageCount) {page : PageNumber}
    (hpage : d'.extractText page = d.extractText page) :
    (page ∈ found'.selected.pages ↔ page ∈ found.selected.pages) ∧
      ∀ cause, (⟨page, cause⟩ : PageFailure) ∈ found'.failures ↔
        ⟨page, cause⟩ ∈ found.failures := by
  constructor
  · rw [h.mem_selected, h'.mem_selected, hcount, hpage]
  · intro cause
    rw [h.mem_failures, h'.mem_failures, hcount, hpage]

/-- A scan finds all there is to find, lets no page be refused, says how many pages it looks at and
which of them it could not read, and finds the same on all pages but one in a document that differs
in this page only. -/
theorem scan_findsAll_and_isolates (d : Document σ ω) (m : Query.Matcher) (s : Session σ) :
    d.FindsAll m ((d.scan m).run s).1 ∧
    (∀ seen page rest, PageNumber.range d.pageCount = seen ++ page :: rest →
      (((d.scanPages m { total := d.pageCount } seen).run s).1.selected.push page).1 = true) ∧
    ((d.scan m).run s).2.journal.report =
      s.journal.report ++ d.scanLine :: ((d.scan m).run s).1.failures.map PageFailure.line ∧
    ∀ (σ' ω' : Type) (d' : Document σ' ω') (s' : Session σ') (changed : PageNumber),
      d'.pageCount = d.pageCount →
      (∀ page, page ≠ changed → d'.extractText page = d.extractText page) →
      ∀ page, page ≠ changed →
        (page ∈ ((d'.scan m).run s').1.selected.pages ↔
          page ∈ ((d.scan m).run s).1.selected.pages) ∧
        ∀ cause, (⟨page, cause⟩ : PageFailure) ∈ ((d'.scan m).run s').1.failures ↔
          ⟨page, cause⟩ ∈ ((d.scan m).run s).1.failures := by
  refine ⟨d.findsAll_scan m s, ?_, d.report_scan m s, ?_⟩
  · intro seen page rest hrange
    have hasc := PageNumber.pairwise_range d.pageCount
    rw [hrange] at hasc
    obtain ⟨hseen, -, hbefore⟩ := List.pairwise_append.mp hasc
    have hcan := (d.hasFound_scanPages m hseen d.pageCount s).canPush fun q hq =>
      hbefore q hq page List.mem_cons_self
    rw [Selection.push_of_canPush hcan]
  · intro σ' ω' d' s' changed hcount hsame page hne
    exact (d.findsAll_scan m s).congr (d'.findsAll_scan m s') hcount (hsame page hne)

/-- Three pages, of which the second one cannot be read. -/
def withoutSecond (failure : Failure) : Document Unit ScriptedDocument.Writer :=
  ScriptedDocument.toDocument
    { path := ⟨[]⟩, pages := [.ok "tax".toList, .error failure, .ok "Tax".toList] }

/-- The other pages do not care why the second one fails, even if the failure names one of them. -/
theorem scan_findsAll_and_isolates_withoutSecond :
    let second : PageNumber := ⟨2, by decide, by decide⟩
    let third : PageNumber := ⟨3, by decide, by decide⟩
    let d := withoutSecond (.print "offline".toList)
    let d' := withoutSecond (.extraction .first "no font".toList)
    let m := Query.Matcher.compile "TAX".toList
    let s : Session Unit := { files := {}, outside := () }
    PageNumber.range d.pageCount = [.first] ++ second :: [third] ∧
      (((d.scanPages m { total := d.pageCount } [.first]).run s).1.selected.push second).1 = true ∧
      (∀ page, page ≠ second → d'.extractText page = d.extractText page) ∧
      (third ∈ ((d'.scan m).run s).1.selected.pages ↔
        third ∈ ((d.scan m).run s).1.selected.pages) := by
  intro second third d d' m s
  have hrange : PageNumber.range d.pageCount = [.first] ++ second :: [third] := by decide
  have hsame : ∀ page, page ≠ second → d'.extractText page = d.extractText page := by
    intro page hne
    have hoffset : page.offset ≠ 1 := fun h => hne (PageNumber.ext (by
      have hpos := page.value_pos
      simp only [PageNumber.offset] at h
      simp only [second]
      omega))
    simp only [d, d', withoutSecond, ScriptedDocument.toDocument]
    match page.offset, hoffset with
    | 0, _ => rfl
    | k + 2, _ => rfl
  have h := scan_findsAll_and_isolates d m s
  exact ⟨hrange, h.2.1 _ _ _ hrange, hsame,
    (h.2.2.2 _ _ d' s second rfl hsame third (by decide)).1⟩

end Document
end PageQuery
