import PageQuery.Proofs.Json.Node

/-!
Whatever the grammar writes is passed over without a problem: strings that are no text, numbers of any
size, and any depth of nesting.
-/
namespace PageQuery.Json

theorem KeySpells.skip {w : Text} {key : RawString} (h : KeySpells w key) : key.skip = .ok () := by
  cases h with
  | mk => rfl

/-- A part is passed over. -/
def Part.Skips : Part → Prop
  | .value n => n.skip = .ok ()
  | .items _ ns => Node.skipItems ns = .ok ()
  | .members _ ms => Node.skipMembers ms = .ok ()

theorem Writes.skips {w : Text} {part : Part} (h : Writes w part) : part.Skips := by
  induction h with
  | null | bool | number | string => rfl
  | list _ ih =>
    simp only [Part.Skips] at ih
    simp only [Part.Skips, Node.skip, ih]
    rfl
  | object _ ih =>
    simp only [Part.Skips] at ih
    simp only [Part.Skips, Node.skip, ih]
    rfl
  | endOfList | endOfObject => simp only [Part.Skips, Node.skipItems, Node.skipMembers]
  | item _ _ _ ihitem ihmore =>
    simp only [Part.Skips] at ihitem ihmore
    simp only [Part.Skips, Node.skipItems, ihitem, ihmore]
    rfl
  | member _ hkey _ _ ihvalue ihmore =>
    simp only [Part.Skips] at ihvalue ihmore
    simp only [Part.Skips, Node.skipMembers, hkey.skip, ihvalue, ihmore]
    rfl

theorem Node.skip_of_skipMembers {members : List (RawString × Node)}
    (h : skipMembers members = .ok ()) : ∀ member ∈ members, member.2.skip = .ok () := by
  induction members with
  | nil => exact fun _ hmember => nomatch hmember
  | cons member more ih =>
    obtain ⟨key, value⟩ := member
    rw [skipMembers, Except.bind_eq_ok_iff] at h
    obtain ⟨-, -, h⟩ := h
    rw [Except.bind_eq_ok_iff] at h
    obtain ⟨_, hvalue, hmore⟩ := h
    exact List.forall_mem_cons.mpr ⟨hvalue, ih hmore⟩

/-- Each value of an object is passed over. -/
theorem Writes.skip_of_mem {w : Text} {members : List (RawString × Node)}
    (h : Writes w (.value (.object members .closed))) :
    ∀ member ∈ members, member.2.skip = .ok () := by
  cases h with
  | object hmembers => exact Node.skip_of_skipMembers hmembers.skips

end PageQuery.Json
