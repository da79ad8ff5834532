namespace RouteTree

/-! Texts are lists of characters, so that every function on them is a recursion on the list. -/

abbrev Text := List Char

namespace Text

/-- The text before the first `d`, and the text after it when there is one. -/
def cut (d : Char) : Text → Text × Option Text
  | [] => ([], none)
  | c :: rest =>
      if c = d then ([], some rest)
      else
        let parts := cut d rest
        (c :: parts.1, parts.2)

/-- The nonempty pieces between occurrences of `d`. -/
def pieces (d : Char) (t : Text) : List Text :=
  (t.splitOn d).filter fun piece => !piece.isEmpty

def join (separator : Text) (parts : List Text) : Text :=
  List.intercalate separator parts

def strip (p : Char → Bool) (t : Text) : Text :=
  ((t.dropWhile p).reverse.dropWhile p).reverse

def after? (start t : Text) : Option Text :=
  if start.isPrefixOf t then some (t.drop start.length) else none

@[simp] theorem cut_nil (d : Char) : cut d [] = ([], none) := rfl

theorem cut_cons_self (d : Char) (rest : Text) :
    cut d (d :: rest) = ([], some rest) := by
  simp [cut]

theorem cut_cons_of_ne {c d : Char} (h : c ≠ d) (rest : Text) :
    cut d (c :: rest) = (c :: (cut d rest).1, (cut d rest).2) := by
  simp [cut, h]

theorem cut_append_of_not_mem {d : Char} {t : Text} (h : d ∉ t) (rest : Text) :
    cut d (t ++ rest) = (t ++ (cut d rest).1, (cut d rest).2) := by
  induction t with
  | nil => rfl
  | cons c t ih =>
      rw [List.mem_cons, not_or] at h
      rw [List.cons_append, cut_cons_of_ne (Ne.symm h.1), ih h.2, List.cons_append]

theorem cut_of_not_mem {d : Char} {t : Text} (h : d ∉ t) : cut d t = (t, none) := by
  have hcut := cut_append_of_not_mem h []
  simpa using hcut

theorem cut_append {d : Char} {t : Text} (h : d ∉ t) (rest : Text) :
    cut d (t ++ d :: rest) = (t, some rest) := by
  rw [cut_append_of_not_mem h, cut_cons_self, List.append_nil]

theorem not_mem_cut_fst (d : Char) (t : Text) : d ∉ (cut d t).1 := by
  induction t with
  | nil => exact List.not_mem_nil
  | cons c rest ih =>
      by_cases h : c = d
      · simp [h, cut_cons_self]
      · simpa [cut_cons_of_ne h, Ne.symm h] using ih

theorem cut_eq_some {d : Char} {t rest : Text} (h : (t.cut d).2 = some rest) :
    t = (t.cut d).1 ++ d :: rest := by
  induction t with
  | nil => cases h
  | cons c t ih =>
      by_cases hc : c = d
      · subst hc
        rw [cut_cons_self] at h ⊢
        cases h
        rfl
      · rw [cut_cons_of_ne hc] at h ⊢
        exact congrArg (c :: ·) (ih h)

theorem cut_eq_none {d : Char} {t : Text} (h : (t.cut d).2 = none) : t = (t.cut d).1 := by
  induction t with
  | nil => rfl
  | cons c t ih =>
      by_cases hc : c = d
      · subst hc
        rw [cut_cons_self] at h
        cases h
      · rw [cut_cons_of_ne hc] at h ⊢
        exact congrArg (c :: ·) (ih h)

theorem splitOn_eq_cut (d : Char) (t : Text) :
    t.splitOn d = (cut d t).1 :: ((cut d t).2.map (List.splitOn d)).getD [] := by
  cases hcut : (cut d t).2 with
  | none =>
      rw [← cut_eq_none hcut, List.splitOn_eq_singleton (cut_eq_none hcut ▸ not_mem_cut_fst d t)]
      rfl
  | some rest =>
      conv => lhs; rw [cut_eq_some hcut]
      exact List.splitOn_append_cons_self_of_not_mem (not_mem_cut_fst d t) rest

theorem head?_cut_fst {c d : Char} (h : c ≠ d) (t : Text) :
    (cut d t).1.head? = some c ↔ t.head? = some c := by
  cases t with
  | nil => rfl
  | cons e rest =>
      by_cases he : e = d
      · have hne : d ≠ c := fun heq => h heq.symm
        simp [he, cut_cons_self, hne]
      · simp [cut_cons_of_ne he]

theorem mem_pieces {d : Char} {t piece : Text} :
    piece ∈ pieces d t ↔ piece ∈ t.splitOn d ∧ piece ≠ [] := by
  simp [pieces]

/-- A text that can follow another without adding to its last piece. -/
def OpensWith (d : Char) (t : Text) : Prop := t = [] ∨ t.head? = some d

instance (d : Char) (t : Text) : Decidable (t.OpensWith d) := inferInstanceAs (Decidable (_ ∨ _))

theorem opensWith_iff {d : Char} {t : Text} : t.OpensWith d ↔ t = [] ∨ ∃ rest, t = d :: rest := by
  cases t with
  | nil => simp [OpensWith]
  | cons c rest => simp [OpensWith]

theorem OpensWith.append {d : Char} {s t : Text} (hs : s.OpensWith d) (ht : t.OpensWith d) :
    OpensWith d (s ++ t) := by
  cases s with
  | nil => exact ht
  | cons c s => simpa [OpensWith] using hs

theorem OpensWith.flatten {d : Char} {parts : List Text} (h : ∀ part ∈ parts, part.OpensWith d) :
    OpensWith d parts.flatten := by
  induction parts with
  | nil => exact .inl rfl
  | cons part rest ih =>
      rw [List.forall_mem_cons] at h
      exact h.1.append (ih h.2)

theorem OpensWith.cut {c d : Char} {t : Text} (hne : c ≠ d) (h : t.OpensWith c) :
    OpensWith c (cut d t).1 := by
  rcases h with rfl | hhead
  · exact .inl rfl
  · exact .inr ((head?_cut_fst hne t).mpr hhead)

theorem pieces_append_cons (d : Char) (s t : Text) :
    pieces d (s ++ d :: t) = pieces d s ++ pieces d t := by
  rw [pieces, List.splitOn_append_cons_self, List.filter_append]
  rfl

theorem pieces_append {d : Char} {t : Text} (h : t.OpensWith d) (s : Text) :
    pieces d (s ++ t) = pieces d s ++ pieces d t := by
  rcases opensWith_iff.mp h with rfl | ⟨rest, rfl⟩
  · have hnil : pieces d [] = [] := rfl
    rw [hnil, List.append_nil, List.append_nil]
  · have hcons : pieces d (d :: rest) = pieces d rest := pieces_append_cons d [] rest
    rw [hcons, pieces_append_cons]

/-- Joined texts have the pieces of each of them, none more and none less. -/
theorem pieces_flatten {d : Char} {parts : List Text} (h : ∀ part ∈ parts, part.OpensWith d) :
    pieces d parts.flatten = parts.flatMap (pieces d) := by
  induction parts with
  | nil => rfl
  | cons part rest ih =>
      rw [List.forall_mem_cons] at h
      rw [List.flatten_cons, List.flatMap_cons, pieces_append (.flatten h.2), ih h.2]

theorem mem_of_mem_splitOn {d c : Char} {t piece : Text} (hpiece : piece ∈ t.splitOn d)
    (hc : c ∈ piece) : c ∈ t ∧ c ≠ d := by
  induction t generalizing piece with
  | nil =>
      rw [List.splitOn_nil, List.mem_singleton] at hpiece
      cases hpiece
      cases hc
  | cons e rest ih =>
      rw [List.splitOn_cons_eq_if_modifyHead] at hpiece
      split at hpiece
      · rcases List.mem_cons.mp hpiece with rfl | hpiece
        · cases hc
        · have hrest := ih hpiece hc
          exact ⟨List.mem_cons_of_mem e hrest.1, hrest.2⟩
      · rename_i hne
        cases hsplit : rest.splitOn d with
        | nil => simp [hsplit] at hpiece
        | cons first others =>
            rw [hsplit, List.modifyHead_cons, List.mem_cons] at hpiece
            rw [hsplit] at ih
            rcases hpiece with rfl | hpiece
            · rcases List.mem_cons.mp hc with rfl | hc
              · exact ⟨List.mem_cons_self, fun heq => hne (beq_iff_eq.mpr heq)⟩
              · have hrest := ih List.mem_cons_self hc
                exact ⟨List.mem_cons_of_mem e hrest.1, hrest.2⟩
            · have hrest := ih (List.mem_cons_of_mem first hpiece) hc
              exact ⟨List.mem_cons_of_mem e hrest.1, hrest.2⟩

theorem not_mem_of_mem_splitOn {d : Char} {t piece : Text} (h : piece ∈ t.splitOn d) :
    d ∉ piece := fun hd => (mem_of_mem_splitOn h hd).2 rfl

theorem ne_nil_and_not_mem_of_mem_pieces {d : Char} {t piece : Text} (h : piece ∈ pieces d t) :
    piece ≠ [] ∧ d ∉ piece := by
  obtain ⟨hpiece, hne⟩ := mem_pieces.mp h
  exact ⟨hne, not_mem_of_mem_splitOn hpiece⟩

theorem mem_join {c : Char} {separator : Text} {parts : List Text}
    (h : c ∈ join separator parts) : c ∈ separator ∨ ∃ part ∈ parts, c ∈ part := by
  induction parts with
  | nil => cases h
  | cons part rest ih =>
      cases rest with
      | nil =>
          rw [join, List.intercalate_singleton] at h
          exact .inr ⟨part, List.mem_cons_self, h⟩
      | cons next rest =>
          rw [join, List.intercalate_cons_cons, List.mem_append, List.mem_append] at h
          rcases h with (hpart | hseparator) | hrest
          · exact .inr ⟨part, List.mem_cons_self, hpart⟩
          · exact .inl hseparator
          · rcases ih hrest with hseparator | ⟨other, hother, hc⟩
            · exact .inl hseparator
            · exact .inr ⟨other, List.mem_cons_of_mem part hother, hc⟩

end Text

end RouteTree
