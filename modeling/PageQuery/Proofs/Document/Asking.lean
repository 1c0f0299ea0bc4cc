import PageQuery.Document.Basic

/-!
Asking a writer for one page after another, whatever it answers. What a document answers does not
depend on what is done with its answers.
-/
namespace PageQuery

/-- A page that a writer was asked for, and its answer. -/
structure Attempt where
  page : PageNumber
  answer : Except Failure Unit

def Attempt.granted? (a : Attempt) : Option PageNumber :=
  match a.answer with
  | .ok () => some a.page
  | .error _ => none

variable {σ ω : Type}

/-- The host at the next call, which does not see what was logged. -/
def Host.afresh (h : Host σ) : Host σ := { h with log := [] }

namespace Document

/-- Asks a writer for every page; each call goes on from where the one before it ended. -/
def askEach (d : Document σ ω) : ω → Host σ → List PageNumber → List Attempt × ω × Host σ
  | writer, h, [] => ([], writer, h)
  | writer, h, page :: more =>
    let ((answer, writer'), h') := d.copyPage page writer h
    let (attempts, last) := d.askEach writer' h'.afresh more
    (⟨page, answer⟩ :: attempts, last)

/-- The pages that a writer took, in the order in which it was asked for them. -/
def granted (d : Document σ ω) (writer : ω) (h : Host σ) (pages : List PageNumber) :
    List PageNumber :=
  (d.askEach writer h pages).1.filterMap Attempt.granted?

/-- How it ended when a writer completed its document, and the files after it. -/
def completed (d : Document σ ω) (writer : ω) (h : Host σ) : Except Failure Unit × FileTree :=
  let (finished, h) := d.finish writer h.afresh
  (finished, h.files)

/-- What comes of a new document when a writer was asked for pages and completes it. -/
def output (d : Document σ ω) (writer : ω) (h : Host σ) (pages : List PageNumber) :
    Except Failure Unit × FileTree :=
  d.completed (d.askEach writer h pages).2.1 (d.askEach writer h pages).2.2

variable (d : Document σ ω)

@[simp] theorem askEach_nil (writer : ω) (h : Host σ) :
    d.askEach writer h [] = ([], writer, h) := rfl

theorem askEach_cons {writer writer' : ω} {h h' : Host σ} {page : PageNumber}
    {answer : Except Failure Unit} (hcopy : d.copyPage page writer h = ((answer, writer'), h'))
    (more : List PageNumber) :
    d.askEach writer h (page :: more) =
      (⟨page, answer⟩ :: (d.askEach writer' h'.afresh more).1,
        (d.askEach writer' h'.afresh more).2) := by
  rw [askEach, hcopy]

theorem map_page_askEach (writer : ω) (h : Host σ) (pages : List PageNumber) :
    (d.askEach writer h pages).1.map Attempt.page = pages := by
  induction pages generalizing writer h with
  | nil => rfl
  | cons page more ih =>
    rcases hcopy : d.copyPage page writer h with ⟨⟨answer, writer'⟩, h'⟩
    rw [d.askEach_cons hcopy, List.map_cons, ih]

end Document
end PageQuery
