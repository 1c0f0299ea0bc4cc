import PageQuery.Proofs.Document.Stored

/-!
Saving a document of stored pages to its own file. It can be saved wherever a file can be written, it
is loaded with the pages that it had, and saving what was loaded changes nothing.
-/
namespace PageQuery.StoredDocument

variable {d : StoredDocument} {files saved : FileTree}

theorem exists_save_iff : (∃ saved, d.save files = .ok saved) ↔ files.Writable d.path := by
  constructor
  · rintro ⟨saved, hsave⟩
    exact FileTree.writable_of_write (encode_render_ne_nil d.pages) (writePages_eq_ok_iff.mp hsave)
  · intro h
    obtain ⟨saved, hwrite⟩ :=
      FileTree.write_of_writable h (Text.encode (StoredPages.render d.pages))
    exact ⟨saved, writePages_eq_ok_iff.mpr hwrite⟩

theorem find_of_save (h : d.save files = .ok saved) :
    saved.find d.path = .ok (.file (Text.encode (StoredPages.render d.pages))) :=
  FileTree.find_of_write (encode_render_ne_nil d.pages) (writePages_eq_ok_iff.mp h)

theorem save_again (h : d.save files = .ok saved) : d.save saved = .ok saved := by
  have hwrite := FileTree.write_again (encode_render_ne_nil d.pages) (writePages_eq_ok_iff.mp h)
  exact writePages_eq_ok_iff.mpr hwrite

/-- A document can be saved iff its path can be written. It is loaded again with its path and all its
pages, and what is loaded is saved as the same file. -/
theorem save_load_roundTrip (d : StoredDocument) (files : FileTree) :
    ((∃ saved, d.save files = .ok saved) ↔ files.Writable d.path) ∧
    ∀ saved, d.save files = .ok saved →
      ∃ loaded, load saved d.path = .ok loaded ∧ loaded.path = d.path ∧ loaded.pages = d.pages ∧
        saved.find d.path = .ok (.file (Text.encode (StoredPages.render d.pages))) ∧
        loaded.save saved = .ok saved := by
  refine ⟨exists_save_iff, ?_⟩
  intro saved hsave
  refine ⟨{ path := d.path, pages := d.pages }, load_of_writePages hsave, rfl, rfl,
    find_of_save hsave, ?_⟩
  -- what is saved does not depend on the pages that refuse to be copied
  exact save_again hsave

/-- Pages with characters that are escaped, with a character of four bytes, and with nothing; an older
file is overwritten. -/
theorem save_load_roundTrip_escapes :
    let d : StoredDocument :=
      { path := .ofText "/notes"
        pages := [.text "\"a\\b\"\r\u0000\u007f😀", .unreadable "\tno /é", .text ""]
        damaged := [.first] }
    let files : FileTree := { entries := [([Text.encode "notes"], .file [1, 2])] }
    ∃ saved, d.save files = .ok saved ∧
      ∃ loaded, load saved d.path = .ok loaded ∧ loaded.pages = d.pages ∧
        loaded.save saved = .ok saved := by
  intro d files
  have hplace : files.writingPlace d.path = .ok [Text.encode "notes"] := by decide +kernel
  have hnode : files.node? [Text.encode "notes"] = some (.file [1, 2]) := by decide +kernel
  have hwritable : files.Writable d.path := by
    refine ⟨_, hplace, fun node hmem => ?_⟩
    rw [hnode] at hmem
    exact ⟨_, (Option.some.inj hmem).symm⟩
  obtain ⟨hsaves, hloads⟩ := save_load_roundTrip d files
  obtain ⟨saved, hsave⟩ := hsaves.mpr hwritable
  obtain ⟨loaded, hload, -, hpages, -, hagain⟩ := hloads saved hsave
  exact ⟨saved, hsave, loaded, hload, hpages, hagain⟩

end PageQuery.StoredDocument
