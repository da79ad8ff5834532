import RouteTree.Proofs.Calls
import Mathlib.Data.List.Dedup
import Mathlib.Data.List.Perm.Subperm

namespace RouteTree

/-! A name that is declared twice is counted twice, but can be supplied only once. -/

theorem Text.length_eq_and_subset_iff {as bs : List Text} (has : as.Nodup) (hbs : bs.Nodup) :
    (as.length = bs.length ∧ ∀ t ∈ as, t ∈ bs) ↔ ∀ t, t ∈ as ↔ t ∈ bs := by
  constructor
  · intro h
    obtain ⟨hlength, hsubset⟩ := h
    have hperm : as.Perm bs := (has.subperm hsubset).perm_of_length_le (Nat.le_of_eq hlength.symm)
    exact fun _ => hperm.mem_iff
  · intro hsame
    have hperm : as.Perm bs := (List.perm_ext_iff_of_nodup has hbs).mpr hsame
    exact ⟨hperm.length_eq, fun t ht => (hsame t).mp ht⟩

namespace PathTemplate

variable {p : PathTemplate} {encode : Bool} {route : Text} {values : Bindings Value}

def NamesMatch (p : PathTemplate) (values : Bindings Value) : Prop :=
  ∀ name, name ∈ values.keys ↔ name ∈ p.parameters

def Accepts (p : PathTemplate) (encode : Bool) (route : Text) (values : Bindings Value) : Prop :=
  ∃ path, p.fill true encode route (some (.named values)) = .ok path

theorem accepts_iff :
    p.Accepts encode route values ↔
      values.size = p.parameterCount ∧ ∀ name ∈ p.parameters, name ∈ values.keys := by
  have hvalue : ∀ name, ((PathArguments.named values).value? name).isSome = true ↔
      name ∈ values.keys := fun name => Entries.isSome_get? name values.entries
  simp only [Accepts, fill_eq_ok, Counted, hvalue]
  constructor
  · intro h
    obtain ⟨_, haccepted, _⟩ := h
    exact haccepted trivial
  · intro haccepted
    exact ⟨_, fun _ => haccepted, rfl⟩

theorem size_eq_length_keys : values.size = values.keys.length :=
  (Entries.length_keys values.entries).symm

theorem accepts_iff_namesMatch (h : p.parameters.Nodup) :
    p.Accepts encode route values ↔ p.NamesMatch values := by
  have hkeys : values.keys.Nodup := values.nodup
  rw [accepts_iff, size_eq_length_keys, parameterCount, eq_comm,
    Text.length_eq_and_subset_iff h hkeys]
  exact forall_congr' fun _ => iff_comm

theorem size_lt_of_namesMatch (h : ¬ p.parameters.Nodup) (hmatch : p.NamesMatch values) :
    values.size < p.parameterCount := by
  have hsubperm : values.keys.Subperm p.parameters :=
    values.nodup.subperm fun name hname => (hmatch name).mp hname
  rw [size_eq_length_keys, parameterCount]
  refine Nat.lt_of_le_of_ne hsubperm.length_le ?_
  intro hlength
  have hperm := hsubperm.perm_of_length_le (Nat.le_of_eq hlength.symm)
  exact h (hperm.nodup_iff.mp values.nodup)

theorem exists_namesMatch (p : PathTemplate) : ∃ values, p.NamesMatch values := by
  have hkeys : Entries.keys (p.parameters.dedup.map fun name => (name, Value.null)) =
      p.parameters.dedup := by
    simp [Entries.keys, Function.comp_def]
  refine ⟨⟨p.parameters.dedup.map fun name => (name, Value.null), ?_⟩, ?_⟩
  · rw [hkeys]
    exact p.parameters.nodup_dedup
  · intro name
    rw [Bindings.keys, hkeys, List.mem_dedup]

/-- The law of strict names holds for the templates without a repeated name and for no others. -/
theorem strict_names_iff_nodup (sigil : Char) (source : Text) (encode : Bool) (route : Text) :
    let p := parse sigil source
    ((∀ values, p.Accepts encode route values ↔ p.NamesMatch values) ↔ p.parameters.Nodup) ∧
      (¬ p.parameters.Nodup → ∀ values, p.NamesMatch values →
        p.fill true encode route (some (.named values)) =
          .error (.parameterCount route p.parameterCount values.size)) := by
  intro p
  have hrefused : ¬ p.parameters.Nodup → ∀ values, p.NamesMatch values →
      p.fill true encode route (some (.named values)) =
        .error (.parameterCount route p.parameterCount values.size) := by
    intro hrepeated values hmatch
    have hcount : values.size ≠ p.parameterCount :=
      Nat.ne_of_lt (size_lt_of_namesMatch hrepeated hmatch)
    have hcheck : p.checkCount true route (.named values) = .error _ :=
      checkCount_eq_error.mpr ⟨rfl, values, rfl, hcount, rfl⟩
    rw [fill, hcheck]
    rfl
  refine ⟨⟨?_, fun hnodup values => accepts_iff_namesMatch hnodup⟩, hrefused⟩
  intro hlaw
  by_contra hrepeated
  obtain ⟨values, hmatch⟩ := p.exists_namesMatch
  obtain ⟨path, hpath⟩ := (hlaw values).mpr hmatch
  rw [hrefused hrepeated values hmatch] at hpath
  cases hpath

/-- The one value for a name that is declared twice is refused, and a second one under a name that
nothing declares is what makes the call succeed. -/
theorem repeated_name_breaks_strict_names :
    let p := parse ':' ['/', ':', 'i', '/', ':', 'i']
    let one : Bindings Value := .ofList [(['i'], .bool true)]
    let two : Bindings Value := .ofList [(['i'], .bool true), (['x'], .null)]
    (p.NamesMatch one ∧ ¬ p.Accepts false [] one) ∧ ¬ p.NamesMatch two ∧ p.Accepts false [] two := by
  intro p one two
  have hparameters : p.parameters = [['i'], ['i']] := by decide
  have hone : one.keys = [['i']] := by decide
  have htwo : two.keys = [['i'], ['x']] := by decide
  refine ⟨⟨?_, ?_⟩, ?_, ?_⟩
  · intro name
    simp [hone, hparameters]
  · intro h
    obtain ⟨path, hpath⟩ := h
    cases hpath
  · intro hmatch
    have hdeclared := (hmatch ['x']).mp (by simp [htwo])
    rw [hparameters] at hdeclared
    revert hdeclared
    decide
  · exact ⟨_, rfl⟩

end PathTemplate

end RouteTree
