import PageQuery.CommandLine.Arguments
import PageQuery.Proofs.Except

/-!
What arguments and variables give. A name without a value says that something is so, and cannot say
that it is not; variables stand in for names that are not given.
-/
namespace PageQuery.CommandLine

open Text (Bytes)

namespace Given

variable {g g' : Given} {p : Parameter} {value : Bytes}

theorem force_of_put (h : g.put p value = .ok g') (hp : p ≠ .force) : g'.force = g.force := by
  cases p with
  | force => exact absurd rfl hp
  | action =>
    obtain ⟨t, -, hread⟩ := Except.bind_eq_ok_iff.mp h
    cases haction : Action.ofKeyword t with
    | ok action =>
      rw [haction] at hread
      cases hread
      rfl
    | error failure =>
      rw [haction] at hread
      cases hread
  | quiet =>
    cases h
    rfl
  | help | version => cases h
  | document | query | grace | wait | outputDir | config =>
    obtain ⟨x, -, hread⟩ := Except.bind_eq_ok_iff.mp h
    cases hread
    rfl

theorem put_of_putOnce (h : g.putOnce p value = .ok g') : g.put p value = .ok g' := by
  unfold putOnce at h
  split at h
  · cases h
  · exact h

end Given

namespace Reading

/-- The parameter to print without a printer is met as a name without a value only. -/
structure ForceIsSwitch (r : Reading) : Prop where
  given : ∀ b ∈ r.given.force, b = true
  pending : ∀ value, r.pending ≠ some (.force, value)
  places : .force ∉ r.places

variable {r r' : Reading} {p : Parameter} {argument body : Bytes}

theorem forceIsSwitch_start : ForceIsSwitch {} := ⟨nofun, nofun, by decide⟩

theorem ForceIsSwitch.putOnce (h : r.ForceIsSwitch) (hp : p ≠ .force) {value : Bytes} {g : Given}
    (hput : r.given.putOnce p value = .ok g) : ∀ b ∈ g.force, b = true := by
  rw [Given.force_of_put (Given.put_of_putOnce hput) hp]
  exact h.given

theorem ForceIsSwitch.await (h : r.ForceIsSwitch) (hp : p ≠ .force) (value : Option Bytes) :
    ForceIsSwitch { r with pending := some (p, value) } where
  given := h.given
  pending value' hsame := by
    cases hsame
    exact hp rfl
  places := h.places

theorem ForceIsSwitch.settle (h : r.ForceIsSwitch) (hrun : r.settle = .ok r') :
    r'.ForceIsSwitch := by
  unfold Reading.settle at hrun
  split at hrun
  · cases hrun
    exact h
  · cases hrun
  · next p value hpending =>
    obtain ⟨g, hput, hread⟩ := Except.bind_eq_ok_iff.mp hrun
    cases hread
    have hp : p ≠ .force := by
      rintro rfl
      exact h.pending _ hpending
    exact ⟨h.putOnce hp hput, nofun, h.places⟩

theorem ForceIsSwitch.takePlace (h : r.ForceIsSwitch) (hrun : r.takePlace argument = .ok r') :
    r'.ForceIsSwitch := by
  unfold Reading.takePlace at hrun
  split at hrun
  · cases hrun
  · next p places hplaces =>
    obtain ⟨r₁, hsettle, hread⟩ := Except.bind_eq_ok_iff.mp hrun
    cases hread
    obtain ⟨hp, hmore⟩ : .force ≠ p ∧ .force ∉ places := by
      have hplaces' := h.places
      rw [hplaces, List.mem_cons, not_or] at hplaces'
      exact hplaces'
    have h₁ := (h.settle hsettle).await (Ne.symm hp) (some argument)
    exact ⟨h₁.given, h₁.pending, hmore⟩

theorem ForceIsSwitch.takeSwitch (h : r.ForceIsSwitch) (hrun : r.takeSwitch p = .ok r') :
    r'.ForceIsSwitch := by
  obtain ⟨r₁, hsettle, hrun⟩ := Except.bind_eq_ok_iff.mp hrun
  obtain ⟨g, hput, hread⟩ := Except.bind_eq_ok_iff.mp hrun
  cases hread
  have h₁ := h.settle hsettle
  refine ⟨?_, h₁.pending, h₁.places⟩
  by_cases hp : p = .force
  · subst hp
    obtain ⟨b, htrue, hread⟩ := Except.bind_eq_ok_iff.mp (Given.put_of_putOnce hput)
    rw [Given.truth, if_pos rfl] at htrue
    cases htrue
    cases hread
    rintro b ⟨⟩
    rfl
  · exact h₁.putOnce hp hput

theorem ForceIsSwitch.takeName (h : r.ForceIsSwitch) {attached : Option Bytes}
    (hrun : r.takeName p attached = .ok r') : r'.ForceIsSwitch := by
  unfold Reading.takeName at hrun
  have hvalue (htakes : p.takesValue = true) : p ≠ .force := by
    rintro rfl
    cases htakes
  split at hrun
  · next value htakes =>
    obtain ⟨r₁, hsettle, hrun⟩ := Except.bind_eq_ok_iff.mp hrun
    obtain ⟨g, hput, hread⟩ := Except.bind_eq_ok_iff.mp hrun
    cases hread
    have h₁ := h.settle hsettle
    exact ⟨h₁.putOnce (hvalue htakes) hput, h₁.pending, h₁.places⟩
  · next htakes =>
    obtain ⟨r₁, hsettle, hread⟩ := Except.bind_eq_ok_iff.mp hrun
    cases hread
    exact (h.settle hsettle).await (hvalue htakes) none
  · cases hrun
  · exact h.takeSwitch hrun

theorem ForceIsSwitch.takeValue (h : r.ForceIsSwitch) (hrun : r.takeValue argument = .ok r') :
    r'.ForceIsSwitch := by
  unfold Reading.takeValue at hrun
  split at hrun
  · next p hawaited =>
    cases hrun
    refine h.await ?_ (some argument)
    rintro rfl
    unfold awaited? at hawaited
    split at hawaited
    · next hpending =>
      cases hawaited
      exact h.pending none hpending
    · cases hawaited
  · exact h.takePlace hrun

theorem ForceIsSwitch.takeLong (h : r.ForceIsSwitch) (hrun : r.takeLong argument body = .ok r') :
    r'.ForceIsSwitch := by
  unfold Reading.takeLong at hrun
  split at hrun
  dsimp only at hrun
  split at hrun
  · cases hrun
  · split at hrun
    · exact h.takeName hrun
    · split at hrun
      · exact h.takeValue hrun
      · cases hrun

theorem ForceIsSwitch.takeLetters {letters : List Text.Symbol} (h : r.ForceIsSwitch)
    (hrun : r.takeLetters letters = .ok r') : r'.ForceIsSwitch := by
  induction letters generalizing r with
  | nil =>
    cases hrun
    exact h
  | cons symbol more ih =>
    cases symbol with
    | stray bytes => cases hrun
    | char c =>
      rw [Reading.takeLetters] at hrun
      split at hrun
      · obtain ⟨r₁, hswitch, hmore⟩ := Except.bind_eq_ok_iff.mp hrun
        exact ih (h.takeSwitch hswitch) hmore
      · cases hrun

theorem ForceIsSwitch.take (h : r.ForceIsSwitch) (hrun : r.take argument = .ok r') :
    r'.ForceIsSwitch := by
  unfold Reading.take at hrun
  split at hrun
  · exact h.takeLong hrun
  · unfold takeShort at hrun
    dsimp only at hrun
    split at hrun
    · exact h.takeValue hrun
    · exact h.takeLetters hrun
  · exact h.takeValue hrun

/-- Arguments can switch the printing without a printer on, and not off. -/
theorem ForceIsSwitch.takeAll {onlyPlaces : Bool} {arguments : List Bytes} (h : r.ForceIsSwitch)
    (hrun : r.takeAll onlyPlaces arguments = .ok r') : r'.ForceIsSwitch := by
  induction arguments generalizing r onlyPlaces with
  | nil => exact h.settle hrun
  | cons argument more ih =>
    rw [Reading.takeAll] at hrun
    split at hrun
    · obtain ⟨r₁, hplace, hmore⟩ := Except.bind_eq_ok_iff.mp hrun
      exact ih (h.takePlace hplace) hmore
    · split at hrun
      · exact ih h hrun
      · obtain ⟨r₁, htake, hmore⟩ := Except.bind_eq_ok_iff.mp hrun
        exact ih (h.take htake) hmore

end Reading

/-! ### The environment -/

/-- The values that variables give. -/
structure Variables where
  force : Option Bool := none
  grace : Option Nat := none
  wait : Option Nat := none
  outputDir : Option Path := none

/-- An environment in which each variable that is looked at has a value that can be read, or is not
set. -/
structure Environment.Gives (e : Environment) (g : Given) (v : Variables) : Prop where
  force (hnone : g.force = none) :
    (e.value? "PAGESIFT_FORCE_PRINT").map (Given.truth .force) = v.force.map .ok
  grace (hnone : g.grace = none) :
    (e.value? "PAGESIFT_PRINT_GRACE_MS").map (Given.number .grace) = v.grace.map .ok
  wait (hnone : g.wait = none) :
    (e.value? "PAGESIFT_PRINT_WAIT_MS").map (Given.number .wait) = v.wait.map .ok
  outputDir (hnone : g.outputDir = none) :
    (e.value? "PAGESIFT_OUTPUT_DIR").map (Given.path .outputDir) = v.outputDir.map .ok

/-- A variable is looked at if its parameter is not given yet. -/
theorem addVariables_cons {α : Type} {e : Environment} {g : Given} {p : Parameter} {name : String}
    {read : Bytes → Except Stop α} {field value : Option α} (set : Option α → Given)
    (hvalue : field = none → (e.value? name).map read = value.map .ok) (hfield : set field = g)
    (hhas : g.has p = field.isSome)
    (hput : ∀ bytes, g.put p bytes = (read bytes).map fun a => set (some a))
    (more : List (Parameter × String)) :
    addVariables e g ((p, name) :: more) = addVariables e (set (field.or value)) more := by
  rw [addVariables, hhas]
  cases field with
  | some a =>
    rw [Option.some_or, hfield]
    rfl
  | none =>
    replace hvalue := hvalue rfl
    rw [Option.none_or]
    cases hbytes : e.value? name with
    | none =>
      rw [hbytes, Option.map_none] at hvalue
      obtain rfl := Option.map_eq_none_iff.mp hvalue.symm
      rw [hfield]
      rfl
    | some bytes =>
      rw [hbytes, Option.map_some] at hvalue
      obtain ⟨a, rfl, ha⟩ := Option.map_eq_some_iff.mp hvalue.symm
      simp only [Option.isSome_none, hput, ← ha, Except.map_ok, Except.ok_bind]

/-- Variables stand in for names, each for its own. -/
theorem addVariables_of_gives {e : Environment} {g : Given} {v : Variables} (h : e.Gives g v) :
    addVariables e g Parameter.variableNames =
      .ok { g with
        force := g.force.or v.force
        grace := g.grace.or v.grace
        wait := g.wait.or v.wait
        outputDir := g.outputDir.or v.outputDir } := by
  let withForce : Given := { g with force := g.force.or v.force }
  let withGrace : Given := { withForce with grace := g.grace.or v.grace }
  let withWait : Given := { withGrace with wait := g.wait.or v.wait }
  rw [Parameter.variableNames,
    addVariables_cons (fun force => { g with force }) h.force rfl rfl fun _ => rfl,
    addVariables_cons (fun grace => { withForce with grace }) h.grace rfl rfl fun _ => rfl,
    addVariables_cons (fun wait => { withGrace with wait }) h.wait rfl rfl fun _ => rfl,
    addVariables_cons (fun outputDir => { withWait with outputDir }) h.outputDir rfl rfl
      fun _ => rfl]
  rfl

end PageQuery.CommandLine
