import PageQuery.Pdf.File
import PageQuery.Proofs.Page.Selection

/-!
The small library for PDF files keeps the promises that libraries give.
-/
namespace PageQuery.PdfFile

variable (f : PdfFile)

theorem map_fst_numberedPages :
    f.numberedPages.map (·.1) = PageNumber.range f.pages.length :=
  List.map_fst_zip (PageNumber.length_range_le _)

theorem length_numberedPages :
    f.numberedPages.length = (PageNumber.range f.pages.length).length := by
  rw [← map_fst_numberedPages, List.length_map]

/-- Pages that can be numbered are all numbered. -/
theorem map_snd_numberedPages (h : f.pages.length < Word.bound32) :
    f.numberedPages.map (·.2) = f.pages := by
  refine List.map_snd_zip ?_
  rw [PageNumber.length_range]
  omega

theorem length_pages_deletePages (dropped : List PageNumber) :
    (f.deletePages dropped).pages.length < Word.bound32 := by
  have hfilter := List.length_filter_le (fun page => page.1 ∉ dropped) f.numberedPages
  have hbound : 0 < Word.bound32 := by decide
  rw [length_numberedPages, PageNumber.length_range] at hfilter
  rw [deletePages, List.length_map]
  omega

theorem map_fst_numberedIds :
    f.numberedIds.map (·.1) = PageNumber.range f.numberedIds.length := by
  rw [numberedIds, List.map_map, List.length_map, length_numberedPages,
    PageNumber.range_length_range]
  exact map_fst_numberedPages f

theorem map_snd_numberedIds_deletePages (dropped : List PageNumber) :
    (f.deletePages dropped).numberedIds.map (·.2) =
      (f.numberedIds.filter fun page => page.1 ∉ dropped).map (·.2) := by
  have hpages := congrArg (List.map PdfPage.page)
    (map_snd_numberedPages _ (f.length_pages_deletePages dropped))
  rw [List.map_map] at hpages
  rw [numberedIds, List.map_map, numberedIds, List.filter_map, List.map_map]
  refine hpages.trans ?_
  rw [deletePages, List.map_map]
  rfl

theorem library_lawful : library.Lawful where
  numbered := map_fst_numberedIds
  deleted := map_snd_numberedIds_deletePages
  pruned _ := rfl
  compressed _ := rfl
  written f := by
    have hheader : Pdf.ascii "%PDF-1.5\n" ≠ [] := by decide
    change render f ≠ []
    simp only [render, List.append_assoc]
    exact List.append_ne_nil_of_left_ne_nil hheader _
  saves _ := rfl

end PageQuery.PdfFile
