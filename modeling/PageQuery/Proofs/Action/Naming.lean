import PageQuery.Action.Naming
import PageQuery.Proofs.Text.Pieces

/-!
The search for the path of an export: what it tries, and that it finds a path where nothing is.
-/
namespace PageQuery.Naming

variable {files : FileTree} {source : Path} {directory : Option Path} {query : Text}
  {time : Timestamp} {extension : Text}

def plainPath (source : Path) (directory : Option Path) (query : Text) (time : Timestamp)
    (extension : Text) : Path :=
  (directory.getD (directoryOf source)).join
    (.ofText (exportStem (baseOf source) query time ++ '.' :: extension))

def numberedPath (source : Path) (directory : Option Path) (query : Text) (time : Timestamp)
    (extension : Text) (number : Nat) : Path :=
  (directory.getD (directoryOf source)).join
    (.ofText (numberedName (exportStem (baseOf source) query time) number extension))

/-- The extension of an export's name can be stripped, whatever its parts are. -/
theorem stripEnd?_exportName (base query : Text) (time : Timestamp) (extension : Text) :
    stripEnd? ('.' :: extension) (exportName base query time extension) =
      some (exportStem base query time) :=
  stripEnd?_eq_some_iff.mpr rfl

theorem exportPath_eq_plainPath
    (h : files.pathExists (plainPath source directory query time extension) = false) :
    exportPath files source directory query time extension =
      plainPath source directory query time extension := by
  simp only [plainPath] at h
  simp only [exportPath, exportName, h, plainPath, Bool.false_eq_true, ↓reduceIte]

theorem exportPath_eq_numberedPath {number : Nat}
    (hplain : files.pathExists (plainPath source directory query time extension) = true)
    (hnumber : leastFree? (fun n => !files.pathExists
      (numberedPath source directory query time extension n)) numberCount 1 = some number) :
    exportPath files source directory query time extension =
      numberedPath source directory query time extension number := by
  simp only [plainPath] at hplain
  simp only [numberedPath] at hnumber
  simp only [exportPath, stripEnd?_exportName, Option.getD_some]
  simp only [exportName, hplain, hnumber, numberedPath, ↓reduceIte]

theorem exportPath_cases (files : FileTree) (source : Path) (directory : Option Path) (query : Text)
    (time : Timestamp) (extension : Text) :
    exportPath files source directory query time extension =
        plainPath source directory query time extension ∨
      ∃ number, leastFree? (fun n => !files.pathExists
          (numberedPath source directory query time extension n)) numberCount 1 = some number ∧
        exportPath files source directory query time extension =
          numberedPath source directory query time extension number := by
  cases hplain : files.pathExists (plainPath source directory query time extension) with
  | false => exact .inl (exportPath_eq_plainPath hplain)
  | true =>
    cases hfound : leastFree? (fun n => !files.pathExists
        (numberedPath source directory query time extension n)) numberCount 1 with
    | some number => exact .inr ⟨number, rfl, exportPath_eq_numberedPath hplain hfound⟩
    | none =>
      simp only [plainPath] at hplain
      simp only [numberedPath] at hfound
      refine .inl ?_
      simp only [exportPath, stripEnd?_exportName, Option.getD_some]
      simp only [exportName, hplain, hfound, plainPath, ↓reduceIte]

/-- The number found is free, and no smaller one is. -/
theorem leastFree?_eq_some_iff {free : Nat → Bool} {count first number : Nat} :
    leastFree? free count first = some number ↔
      first ≤ number ∧ number < first + count ∧ free number = true ∧
        ∀ smaller, first ≤ smaller → smaller < number → free smaller = false := by
  induction count generalizing first with
  | zero =>
    rw [leastFree?]
    constructor
    · nofun
    · rintro ⟨hfirst, hlast, -⟩
      omega
  | succ count ih =>
    rw [leastFree?]
    cases hfree : free first with
    | true =>
      rw [if_pos rfl, Option.some.injEq]
      constructor
      · rintro rfl
        exact ⟨Nat.le_refl _, by omega, hfree, fun smaller hge hlt => by omega⟩
      · rintro ⟨hfirst, -, -, hleast⟩
        by_contra hne
        have htaken := hleast first (Nat.le_refl _) (by omega)
        rw [hfree] at htaken
        cases htaken
    | false =>
      rw [if_neg Bool.false_ne_true, ih]
      constructor
      · rintro ⟨hfirst, hlast, hnumber, hleast⟩
        refine ⟨by omega, by omega, hnumber, fun smaller hge hlt => ?_⟩
        rcases Nat.eq_or_lt_of_le hge with rfl | hgt
        · exact hfree
        · exact hleast smaller hgt hlt
      · rintro ⟨hfirst, hlast, hnumber, hleast⟩
        have hne : first ≠ number := by
          rintro rfl
          rw [hfree] at hnumber
          cases hnumber
        exact ⟨by omega, by omega, hnumber, fun smaller hge => hleast smaller (by omega)⟩

theorem exists_leastFree? {free : Nat → Bool} {count first number : Nat} (hfirst : first ≤ number)
    (hlast : number < first + count) (hfree : free number = true) :
    ∃ least, leastFree? free count first = some least := by
  induction count generalizing first with
  | zero => omega
  | succ count ih =>
    rw [leastFree?]
    split
    · exact ⟨first, rfl⟩
    · next hnot =>
      have hne : number ≠ first := by
        rintro rfl
        exact hnot hfree
      exact ih (by omega) (by omega)

/-- A name is left for an export: the plain one, or one with a number. Otherwise the search for a
name has no end. -/
def NameLeft (files : FileTree) (source : Path) (directory : Option Path) (query : Text)
    (time : Timestamp) (extension : Text) : Prop :=
  files.pathExists (plainPath source directory query time extension) = false ∨
    ∃ number, 1 ≤ number ∧ number ≤ numberCount ∧
      files.pathExists (numberedPath source directory query time extension number) = false

/-- What the search gives once the plain name is taken: the least number of a name that is left. -/
theorem exists_leastFree?_of_nameLeft
    (h : NameLeft files source directory query time extension)
    (hplain : files.pathExists (plainPath source directory query time extension) = true) :
    ∃ number, leastFree? (fun n => !files.pathExists
      (numberedPath source directory query time extension n)) numberCount 1 = some number := by
  obtain hfree | ⟨number, hfirst, hlast, hfree⟩ := h
  · rw [hplain] at hfree
    cases hfree
  · exact exists_leastFree? hfirst (by omega) (by rw [hfree]; rfl)

theorem not_pathExists_exportPath (h : NameLeft files source directory query time extension) :
    files.pathExists (exportPath files source directory query time extension) = false := by
  cases hplain : files.pathExists (plainPath source directory query time extension) with
  | false => rwa [exportPath_eq_plainPath hplain]
  | true =>
    obtain ⟨least, hleast⟩ := exists_leastFree?_of_nameLeft h hplain
    obtain ⟨-, -, hfree, -⟩ := leastFree?_eq_some_iff.mp hleast
    rw [exportPath_eq_numberedPath hplain hleast]
    simpa using hfree

/-- If a name is left, the search finds one where nothing is: the plain name if that is free, and
else the name with the least number that is. The name always ends in its extension, which is stripped
and put back behind the number. -/
theorem exportPath_finds_least (files : FileTree) (source : Path) (directory : Option Path)
    (query : Text) (time : Timestamp) (extension : Text)
    (h : NameLeft files source directory query time extension) :
    files.pathExists (exportPath files source directory query time extension) = false ∧
      stripEnd? ('.' :: extension) (exportName (baseOf source) query time extension) =
        some (exportStem (baseOf source) query time) ∧
      (files.pathExists (plainPath source directory query time extension) = false →
        exportPath files source directory query time extension =
          plainPath source directory query time extension) ∧
      (files.pathExists (plainPath source directory query time extension) = true →
        ∃ number, 1 ≤ number ∧ number ≤ numberCount ∧
          leastFree? (fun n => !files.pathExists
            (numberedPath source directory query time extension n)) numberCount 1 = some number ∧
          exportPath files source directory query time extension =
            numberedPath source directory query time extension number ∧
          files.pathExists (numberedPath source directory query time extension number) = false ∧
          ∀ smaller, 1 ≤ smaller → smaller < number →
            files.pathExists (numberedPath source directory query time extension smaller) =
              true) := by
  refine ⟨not_pathExists_exportPath h, stripEnd?_exportName _ _ _ _, exportPath_eq_plainPath,
    fun hplain => ?_⟩
  obtain ⟨number, hfound⟩ := exists_leastFree?_of_nameLeft h hplain
  obtain ⟨hfirst, hlast, hfree, hleast⟩ := leastFree?_eq_some_iff.mp hfound
  refine ⟨number, hfirst, by omega, hfound, exportPath_eq_numberedPath hplain hfound, ?_, ?_⟩
  · simpa using hfree
  · intro smaller hge hlt
    simpa using hleast smaller hge hlt

/-- The plain name and the first number are taken, and the query ends like the names. -/
theorem exportPath_finds_least_secondNumber :
    let source := Path.ofText "/annual.pdf"
    let time : Timestamp :=
      { year := 2025, month := 3, day := 9, hour := 14, minute := 5, second := 7 }
    let files : FileTree :=
      { entries := [([Text.encode "annual_tax_1.pdf_20250309_140507.pdf"], .file []),
          ([Text.encode "annual_tax_1.pdf_20250309_140507_1.pdf"], .file [])] }
    NameLeft files source none "tax/1.pdf" time "pdf" ∧
      exportPath files source none "tax/1.pdf" time "pdf" =
        .ofText "/annual_tax_1.pdf_20250309_140507_2.pdf" ∧
      files.pathExists (.ofText "/annual_tax_1.pdf_20250309_140507_2.pdf") = false := by
  intro source time files
  have hplain : files.pathExists (plainPath source none "tax/1.pdf" time "pdf") = true := by
    decide +kernel
  have hone : files.pathExists (numberedPath source none "tax/1.pdf" time "pdf" 1) = true := by
    decide +kernel
  have htwo : files.pathExists (numberedPath source none "tax/1.pdf" time "pdf" 2) = false := by
    decide +kernel
  have hpath : numberedPath source none "tax/1.pdf" time "pdf" 2 =
      .ofText "/annual_tax_1.pdf_20250309_140507_2.pdf" := by decide +kernel
  have hleft : NameLeft files source none "tax/1.pdf" time "pdf" :=
    .inr ⟨2, by decide, by decide, htwo⟩
  obtain ⟨hfree, -, -, hnumbered⟩ :=
    exportPath_finds_least files source none "tax/1.pdf" time "pdf" hleft
  obtain ⟨number, hfirst, -, -, hexport, hnumber, hsmaller⟩ := hnumbered hplain
  obtain rfl : number = 2 := by
    have hne : number ≠ 1 := by
      rintro rfl
      rw [hone] at hnumber
      cases hnumber
    have hle : ¬ 2 < number := by
      intro hlt
      rw [hsmaller 2 (by decide) hlt] at htwo
      cases htwo
    omega
  rw [hexport, hpath] at hfree
  exact ⟨hleft, hexport.trans hpath, hfree⟩

end PageQuery.Naming
