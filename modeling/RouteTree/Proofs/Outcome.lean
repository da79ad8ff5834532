import Mathlib.Data.List.Forall2

namespace RouteTree

/-! Computations that may fail, taken apart at their steps. -/

namespace Outcome

variable {α β ε : Type}

/-- Two computations fail with one error, or succeed with related results. -/
inductive Rel (R : α → β → Prop) : Except ε α → Except ε β → Prop
  | error (e : ε) : Rel R (.error e) (.error e)
  | ok {a : α} {b : β} (h : R a b) : Rel R (.ok a) (.ok b)

theorem bind_eq_ok {x : Except ε α} {f : α → Except ε β} {b : β} :
    x >>= f = .ok b ↔ ∃ a, x = .ok a ∧ f a = .ok b := by
  cases x with
  | error e => simp [bind, Except.bind]
  | ok a => simp [bind, Except.bind]

theorem bind_eq_error {x : Except ε α} {f : α → Except ε β} {e : ε} :
    x >>= f = .error e ↔ x = .error e ∨ ∃ a, x = .ok a ∧ f a = .error e := by
  cases x with
  | error e => simp [bind, Except.bind]
  | ok a => simp [bind, Except.bind]

@[simp] theorem pure_eq_ok {a b : α} : (pure a : Except ε α) = .ok b ↔ a = b :=
  ⟨fun h => Except.ok.inj h, fun h => congrArg Except.ok h⟩

@[simp] theorem pure_ne_error {a : α} {e : ε} : (pure a : Except ε α) ≠ .error e := nofun

theorem mapM_eq_ok {f : α → Except ε β} {as : List α} {bs : List β} :
    as.mapM f = .ok bs ↔ List.Forall₂ (fun a b => f a = .ok b) as bs := by
  induction as generalizing bs with
  | nil => rw [List.mapM_nil, pure_eq_ok, List.forall₂_nil_left_iff, eq_comm]
  | cons a as ih =>
      rw [List.mapM_cons, List.forall₂_cons_left_iff]
      simp only [bind_eq_ok, pure_eq_ok]
      constructor
      · intro h
        obtain ⟨b, hhead, rest, htail, rfl⟩ := h
        exact ⟨b, rest, hhead, ih.mp htail, rfl⟩
      · intro h
        obtain ⟨b, rest, hhead, htail, rfl⟩ := h
        exact ⟨b, hhead, rest, ih.mpr htail, rfl⟩

theorem exists_of_mapM_eq_error {f : α → Except ε β} {as : List α} {e : ε}
    (h : as.mapM f = .error e) : ∃ a ∈ as, f a = .error e := by
  induction as with
  | nil => cases h
  | cons a as ih =>
      rw [List.mapM_cons, bind_eq_error] at h
      rcases h with hhead | ⟨b, _, hrest⟩
      · exact ⟨a, List.mem_cons_self, hhead⟩
      · rw [bind_eq_error] at hrest
        rcases hrest with htail | ⟨bs, _, hpure⟩
        · obtain ⟨a', hmem, ha'⟩ := ih htail
          exact ⟨a', List.mem_cons_of_mem a hmem, ha'⟩
        · cases hpure

/-- The value, unless there is an error. -/
def orError (a : α) : Option ε → Except ε α
  | some e => .error e
  | none => .ok a

@[simp] theorem orError_some (a : α) (e : ε) : orError a (some e) = .error e := rfl

@[simp] theorem orError_none (a : α) : orError a (none : Option ε) = .ok a := rfl

theorem orError_ite (a : α) (p : Prop) [Decidable p] (e : ε) :
    orError a (if p then some e else none) = if p then .error e else .ok a := by
  split <;> rfl

theorem orError_bind (a : α) (e e' : Option ε) (f : α → β) :
    (orError a e >>= fun a => orError (f a) e') = orError (f a) (e.or e') := by
  cases e <;> rfl

theorem orError_map (a : α) (e : Option ε) (f : α → β) :
    (do let a ← orError a e; pure (f a)) = orError (f a) e := by
  cases e <;> rfl

theorem mapM_eq_orError {f : α → Except ε β} {g : α → β} {error? : α → Option ε}
    (h : ∀ a, f a = orError (g a) (error? a)) (as : List α) :
    as.mapM f = orError (as.map g) (as.findSome? error?) := by
  induction as with
  | nil => rfl
  | cons a as ih =>
      rw [List.mapM_cons, ih, h, List.findSome?_cons, List.map_cons]
      cases error? a with
      | some e => rfl
      | none => cases as.findSome? error? <;> rfl

/-- The computation gives the error if there is one, and a value if there is none. -/
def Reports (x : Except ε α) : Option ε → Prop
  | some e => x = .error e
  | none => ∃ a, x = .ok a

theorem reports_orError (a : α) (e : Option ε) : Reports (orError a e) e := by
  cases e with
  | none => exact ⟨a, rfl⟩
  | some e => rfl

theorem Reports.eq_error_iff {x : Except ε α} {e? : Option ε} (h : Reports x e?) {e : ε} :
    x = .error e ↔ e? = some e := by
  cases e? with
  | none =>
      obtain ⟨a, rfl⟩ := h
      simp
  | some e' =>
      obtain rfl : x = .error e' := h
      simp

theorem Reports.exists_eq_ok_iff {x : Except ε α} {e? : Option ε} (h : Reports x e?) :
    (∃ a, x = .ok a) ↔ e? = none := by
  cases e? with
  | none => exact iff_of_true h rfl
  | some e =>
      obtain rfl : x = .error e := h
      simp

theorem Reports.bind {x : Except ε α} {f : α → Except ε β} {e e' : Option ε} (hx : Reports x e)
    (hf : ∀ a, x = .ok a → Reports (f a) e') : Reports (x >>= f) (e.or e') := by
  cases e with
  | none =>
      obtain ⟨a, rfl⟩ := hx
      exact hf a rfl
  | some e =>
      obtain rfl : x = .error e := hx
      rfl

theorem Reports.map {x : Except ε α} {e : Option ε} (hx : Reports x e) (f : α → β) :
    Reports (do let a ← x; pure (f a)) e := by
  rw [← Option.or_none (o := e)]
  exact hx.bind fun a _ => ⟨f a, rfl⟩

end Outcome

end RouteTree
