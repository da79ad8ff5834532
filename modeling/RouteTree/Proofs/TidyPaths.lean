import RouteTree.Text
import Mathlib.Data.List.Infix

namespace RouteTree.Text

/-- The pieces of a path with one slash between them, and one in front if the path had one. -/
def tidied (path : Text) : Text :=
  if path.head? = some '/' then '/' :: join ['/'] (pieces '/' path)
  else join ['/'] (pieces '/' path)

/-- No two slashes stand together, and none at the end of more than the root. -/
def Tidy (path : Text) : Prop :=
  ¬ ['/', '/'] <:+: path ∧ (path.getLast? = some '/' → path = ['/'])

theorem exists_splitOn_cons (d : Char) (t : Text) :
    ∃ first others, t.splitOn d = first :: others ∧ (first = [] ↔ t = [] ∨ t.head? = some d) := by
  cases t with
  | nil => exact ⟨[], [], rfl, by simp⟩
  | cons c rest =>
      rw [List.splitOn_cons_eq_if_modifyHead]
      split
      · rename_i heq
        exact ⟨[], _, rfl, by simpa using heq⟩
      · rename_i hne
        obtain ⟨first, others, hsplit⟩ := List.exists_cons_of_ne_nil (List.splitOn_ne_nil d rest)
        refine ⟨c :: first, others, by rw [hsplit, List.modifyHead_cons], ?_⟩
        simpa using hne

theorem doubled_infix_cons {c d : Char} {rest : Text} :
    [d, d] <:+: c :: rest ↔ c = d ∧ rest.head? = some d ∨ [d, d] <:+: rest := by
  rw [List.infix_cons_iff, List.cons_prefix_cons, eq_comm]
  cases rest with
  | nil => simp
  | cons e rest => simp [eq_comm]

theorem nil_mem_tail_splitOn {d : Char} {t : Text} :
    [] ∈ (t.splitOn d).tail ↔ t.getLast? = some d ∨ [d, d] <:+: t := by
  induction t with
  | nil => simp
  | cons c rest ih =>
      obtain ⟨first, others, hsplit, hfirst⟩ := exists_splitOn_cons d rest
      rw [hsplit, List.tail_cons] at ih
      have hlast : (c :: rest).getLast? = some d ↔
          c = d ∧ rest = [] ∨ rest.getLast? = some d := by
        cases rest with
        | nil => simp
        | cons e rest => simp [List.getLast?_cons_cons]
      rw [List.splitOn_cons_eq_if_modifyHead, hsplit, doubled_infix_cons, hlast]
      by_cases hc : c = d
      · rw [if_pos (beq_iff_eq.mpr hc), List.tail_cons, List.mem_cons, ih, eq_comm, hfirst]
        simp only [hc, true_and]
        exact or_or_or_comm
      · rw [if_neg (fun heq => hc (beq_iff_eq.mp heq)), List.modifyHead_cons, List.tail_cons, ih]
        simp only [hc, false_and, false_or]

theorem splitOn_join_pieces {d : Char} {t : Text} (h : pieces d t ≠ []) :
    (join [d] (pieces d t)).splitOn d = pieces d t :=
  List.splitOn_intercalate d
    (fun _ hpiece => (ne_nil_and_not_mem_of_mem_pieces hpiece).2) h

theorem join_pieces_eq_self_iff {d : Char} {t : Text} :
    join [d] (pieces d t) = t ↔ t = [] ∨ [] ∉ t.splitOn d := by
  constructor
  · intro hjoin
    by_cases hnone : pieces d t = []
    · rw [hnone] at hjoin
      exact .inl hjoin.symm
    · right
      have hsplit := splitOn_join_pieces hnone
      rw [hjoin] at hsplit
      rw [hsplit]
      exact fun hmem => (mem_pieces.mp hmem).2 rfl
  · intro h
    rcases h with rfl | hnil
    · rfl
    · have hpieces : pieces d t = t.splitOn d := by
        rw [pieces, List.filter_eq_self]
        intro piece hpiece
        cases piece with
        | nil => exact absurd hpiece hnil
        | cons c piece => rfl
      rw [hpieces, join, List.intercalate_splitOn]

theorem tidy_iff {path : Text} :
    path.Tidy ↔ path = ['/'] ∨ [] ∉ (path.splitOn '/').tail := by
  rw [nil_mem_tail_splitOn, not_or, Tidy]
  constructor
  · intro h
    obtain ⟨hdoubled, hlast⟩ := h
    by_cases hroot : path = ['/']
    · exact .inl hroot
    · exact .inr ⟨fun h => hroot (hlast h), hdoubled⟩
  · intro h
    rcases h with rfl | ⟨hlast, hdoubled⟩
    · exact ⟨fun hdoubled => absurd hdoubled.length_le (by decide), fun _ => rfl⟩
    · exact ⟨hdoubled, fun h => absurd h hlast⟩

theorem tidied_eq_self_iff {path : Text} : path.tidied = path ↔ path.Tidy := by
  rw [tidy_iff]
  cases path with
  | nil => exact iff_of_true rfl (.inr List.not_mem_nil)
  | cons c rest =>
      by_cases hc : c = '/'
      · subst hc
        have htidied : tidied ('/' :: rest) = '/' :: join ['/'] (pieces '/' rest) :=
          congrArg ('/' :: join ['/'] ·) (pieces_append_cons '/' [] rest)
        rw [htidied, List.cons.injEq, join_pieces_eq_self_iff, List.splitOn_cons_eq_if_modifyHead]
        simp
      · have htidied : tidied (c :: rest) = join ['/'] (pieces '/' (c :: rest)) :=
          if_neg fun heq => hc (Option.some.inj heq)
        obtain ⟨first, others, hsplit, hfirst⟩ := exists_splitOn_cons '/' (c :: rest)
        have hne : [] ≠ first := fun heq => by simpa [hc] using hfirst.mp heq.symm
        rw [htidied, join_pieces_eq_self_iff, hsplit]
        simp [hc, hne]

theorem pieces_join_pieces (d : Char) (t : Text) : pieces d (join [d] (pieces d t)) = pieces d t := by
  by_cases hnone : pieces d t = []
  · rw [hnone]
    rfl
  · conv => lhs; rw [pieces, splitOn_join_pieces hnone]
    rw [List.filter_eq_self]
    intro piece hpiece
    simpa using (mem_pieces.mp hpiece).2

theorem head?_join_pieces (d : Char) (t : Text) : (join [d] (pieces d t)).head? ≠ some d := by
  intro hhead
  obtain ⟨first, others, hsplit, hfirst⟩ := exists_splitOn_cons d (join [d] (pieces d t))
  by_cases hnone : pieces d t = []
  · rw [hnone] at hhead
    cases hhead
  · rw [splitOn_join_pieces hnone] at hsplit
    have hmem : first ∈ pieces d t := hsplit ▸ List.mem_cons_self
    exact (mem_pieces.mp hmem).2 (hfirst.mpr (.inr hhead))

theorem pieces_tidied (path : Text) : pieces '/' path.tidied = pieces '/' path := by
  rw [tidied]
  split
  · exact (pieces_append_cons '/' [] _).trans (pieces_join_pieces '/' path)
  · exact pieces_join_pieces '/' path

theorem head?_tidied {path : Text} : path.tidied.head? = some '/' ↔ path.head? = some '/' := by
  rw [tidied]
  split
  · rename_i hhead
    exact iff_of_true rfl hhead
  · rename_i hhead
    exact iff_of_false (head?_join_pieces '/' path) hhead

theorem tidied_eq_iff {path other : Text} :
    path.tidied = other.tidied ↔
      pieces '/' path = pieces '/' other ∧ (path.head? = some '/' ↔ other.head? = some '/') := by
  constructor
  · intro h
    rw [← pieces_tidied path, ← pieces_tidied other, ← head?_tidied, ← @head?_tidied other, h]
    exact ⟨rfl, Iff.rfl⟩
  · intro h
    obtain ⟨hpieces, hhead⟩ := h
    simp only [tidied, hpieces, hhead]

theorem tidied_tidied (path : Text) : path.tidied.tidied = path.tidied :=
  tidied_eq_iff.mpr ⟨pieces_tidied path, head?_tidied⟩

theorem tidy_tidied (path : Text) : path.tidied.Tidy :=
  tidied_eq_self_iff.mp path.tidied_tidied

end RouteTree.Text
