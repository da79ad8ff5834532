import RouteTree.Proofs.QueryKeys

namespace RouteTree

namespace Text

def BeforeFirst (d : Char) (t start : Text) : Prop :=
  d ∉ start ∧ (t = start ∨ ∃ rest, t = start ++ d :: rest)

/-- No blank at either end. -/
def Tight (t : Text) : Prop :=
  ∀ c, t.head? = some c ∨ t.getLast? = some c → Unicode.isBlank c = false

/-- The text is `s` with blanks around it, and `s` has none at its ends. -/
structure TrimsTo (t s : Text) : Prop where
  blanks : ∃ before after, t = before ++ s ++ after ∧
    (∀ c ∈ before, Unicode.isBlank c = true) ∧ ∀ c ∈ after, Unicode.isBlank c = true
  tight : s.Tight

theorem beforeFirst_iff {d : Char} {t start : Text} :
    t.BeforeFirst d start ↔ (t.cut d).1 = start := by
  constructor
  · rintro ⟨hnew, rfl | ⟨rest, rfl⟩⟩
    · rw [cut_of_not_mem hnew]
    · rw [cut_append hnew]
  · rintro rfl
    refine ⟨not_mem_cut_fst d t, ?_⟩
    cases hrest : (t.cut d).2 with
    | none => exact .inl (cut_eq_none hrest)
    | some rest => exact .inr ⟨rest, cut_eq_some hrest⟩

theorem BeforeFirst.subset {d : Char} {t start : Text} (h : t.BeforeFirst d start) :
    ∀ c ∈ start, c ∈ t := by
  intro c hc
  rcases h.2 with rfl | ⟨rest, rfl⟩
  · exact hc
  · exact List.mem_append_left _ hc

theorem dropWhile_append_eq {p : Char → Bool} {before rest : Text}
    (hbefore : ∀ c ∈ before, p c = true) (hrest : ∀ c, rest.head? = some c → p c = false) :
    (before ++ rest).dropWhile p = rest := by
  rw [List.dropWhile_append_of_pos hbefore]
  cases rest with
  | nil => rfl
  | cons c rest => simp [hrest c rfl]

theorem head?_dropWhile {p : Char → Bool} {t : Text} {c : Char}
    (h : (t.dropWhile p).head? = some c) : p c = false := by
  have hnot := List.head?_dropWhile_not p t
  rwa [h] at hnot

theorem trimsTo_trim (t : Text) : t.TrimsTo t.trim := by
  have hfront := List.takeWhile_append_dropWhile (p := Unicode.isBlank) (l := t)
  have hback := List.takeWhile_append_dropWhile (p := Unicode.isBlank)
    (l := (t.dropWhile Unicode.isBlank).reverse)
  have hsplit : t.dropWhile Unicode.isBlank = t.trim ++
      ((t.dropWhile Unicode.isBlank).reverse.takeWhile Unicode.isBlank).reverse := by
    rw [trim, strip, ← List.reverse_append, hback, List.reverse_reverse]
  refine ⟨⟨t.takeWhile Unicode.isBlank,
    ((t.dropWhile Unicode.isBlank).reverse.takeWhile Unicode.isBlank).reverse, ?_, ?_, ?_⟩, ?_⟩
  · rw [List.append_assoc, ← hsplit, hfront]
  · exact fun c hc => List.all_eq_true.mp List.all_takeWhile c hc
  · exact fun c hc => List.all_eq_true.mp List.all_takeWhile c (List.mem_reverse.mp hc)
  · rintro c (hhead | hlast)
    · apply head?_dropWhile (t := t)
      rw [hsplit, List.head?_append, hhead]
      rfl
    · rw [trim, strip, List.getLast?_reverse] at hlast
      exact head?_dropWhile hlast

theorem TrimsTo.trim_eq {t s : Text} (h : t.TrimsTo s) : t.trim = s := by
  obtain ⟨⟨before, after, rfl, hbefore, hafter⟩, htight⟩ := h
  cases s with
  | nil =>
      have hall : ∀ c ∈ before ++ after, Unicode.isBlank c = true := by
        intro c hc
        exact (List.mem_append.mp hc).elim (hbefore c) (hafter c)
      have hfront : (before ++ after ++ []).dropWhile Unicode.isBlank = [] :=
        dropWhile_append_eq hall nofun
      rw [List.append_nil] at hfront
      rw [List.append_nil, trim, strip, hfront]
      rfl
  | cons first rest =>
      have hfront : (before ++ (first :: rest) ++ after).dropWhile Unicode.isBlank =
          first :: rest ++ after := by
        rw [List.append_assoc]
        apply dropWhile_append_eq hbefore
        intro c hc
        exact htight c (.inl hc)
      have hback : (after.reverse ++ (first :: rest).reverse).dropWhile Unicode.isBlank =
          (first :: rest).reverse := by
        apply dropWhile_append_eq fun c hc => hafter c (List.mem_reverse.mp hc)
        intro c hc
        rw [List.head?_reverse] at hc
        exact htight c (.inr hc)
      rw [trim, strip, hfront, List.reverse_append, hback, List.reverse_reverse]

theorem trimsTo_iff {t s : Text} : t.TrimsTo s ↔ t.trim = s :=
  ⟨TrimsTo.trim_eq, fun h => h ▸ trimsTo_trim t⟩

theorem TrimsTo.self {t : Text} (h : t.Tight) : t.TrimsTo t :=
  ⟨⟨[], [], by simp, by simp, by simp⟩, h⟩

theorem TrimsTo.subset {t s : Text} (h : t.TrimsTo s) : ∀ c ∈ s, c ∈ t := by
  obtain ⟨before, after, rfl, -, -⟩ := h.blanks
  intro c hc
  exact List.mem_append_left _ (List.mem_append_right _ hc)

end Text

namespace Query

/-- The text of the piece before its first equals sign, if it has one, trims to the key. -/
def Declares (piece key : Text) : Prop :=
  ∃ name, piece.BeforeFirst '=' name ∧ name.TrimsTo key

theorem declares_iff {piece key : Text} : Declares piece key ↔ declaredKey piece = key := by
  rw [Declares, declaredKey]
  constructor
  · rintro ⟨name, hname, hkey⟩
    rw [Text.beforeFirst_iff.mp hname, hkey.trim_eq]
  · intro h
    exact ⟨_, Text.beforeFirst_iff.mpr rfl, Text.trimsTo_iff.mpr h⟩

instance (piece key : Text) : Decidable (Declares piece key) :=
  decidable_of_iff (declaredKey piece = key) declares_iff.symm

/-- The number of pieces before the first one that declares the key. -/
def firstPlace (declaration key : Text) : Nat :=
  (declaration.splitOn '&').findIdx (Declares · key)

theorem firstPlace_eq_idxOf (declaration key : Text) :
    firstPlace declaration key = ((declaration.splitOn '&').map declaredKey).idxOf key := by
  rw [firstPlace, List.idxOf, List.findIdx_map]
  apply congrArg (List.findIdx · _)
  funext piece
  rw [Function.comp_apply, Bool.eq_iff_iff, decide_eq_true_iff, beq_iff_eq, declares_iff]

structure IsKey (key : Text) : Prop where
  nonempty : key ≠ []
  unseparated : '&' ∉ key
  unmarked : '=' ∉ key
  tight : key.Tight

variable {declaration : Text}

theorem isKey_of_mem {key : Text} (h : key ∈ declaredKeys declaration) : IsKey key := by
  obtain ⟨hne, piece, hpiece, hkey⟩ := mem_declaredKeys.mp h
  obtain ⟨name, hname, htrims⟩ := declares_iff.mpr hkey
  refine ⟨hne, ?_, ?_, htrims.tight⟩
  · intro hmem
    exact Text.not_mem_of_mem_splitOn hpiece (hname.subset _ (htrims.subset _ hmem))
  · intro hmem
    exact hname.1 (htrims.subset _ hmem)

theorem pairwise_declaredKeys (declaration : Text) :
    (declaredKeys declaration).Pairwise fun key later =>
      firstPlace declaration key < firstPlace declaration later := by
  simp only [firstPlace_eq_idxOf]
  rw [declaredKeys, Text.firstOccurrences_filter]
  exact (Text.pairwise_firstOccurrences _).filter _

theorem declares_self {key mark : Text} (h : IsKey key) (hmark : mark.OpensWith '=') :
    Declares (key ++ mark) key := by
  refine ⟨key, ⟨h.unmarked, ?_⟩, .self h.tight⟩
  rcases Text.opensWith_iff.mp hmark with rfl | ⟨rest, rfl⟩
  · exact .inl (List.append_nil key)
  · exact .inr ⟨rest, rfl⟩

theorem declaredKeys_join {keys : List Text} (hkeys : ∀ key ∈ keys, IsKey key) (hnodup : keys.Nodup)
    {mark : Text} (hmark : mark.OpensWith '=') (hsingle : '&' ∉ mark) :
    declaredKeys (Text.join ['&'] (keys.map (· ++ mark))) = keys := by
  by_cases hnil : keys = []
  · rw [hnil]
    rfl
  · have hpieces : (Text.join ['&'] (keys.map (· ++ mark))).splitOn '&' = keys.map (· ++ mark) := by
      apply List.splitOn_intercalate
      · rw [List.forall_mem_map]
        intro key hkey
        rw [List.mem_append, not_or]
        exact ⟨(hkeys key hkey).unseparated, hsingle⟩
      · exact fun h => hnil (List.map_eq_nil_iff.mp h)
    have hnames : (keys.map (· ++ mark)).map declaredKey = keys := by
      rw [List.map_map, List.map_congr_left (g := id), List.map_id]
      intro key hkey
      exact declares_iff.mp (declares_self (hkeys key hkey) hmark)
    have hfilter : keys.filter (fun key => !key.isEmpty) = keys := by
      rw [List.filter_eq_self]
      intro key hkey
      simp [(hkeys key hkey).nonempty]
    rw [declaredKeys, hpieces, hnames, hfilter, Text.firstOccurrences_of_nodup hnodup]

/-- The declared keys are those of the pieces, the empty one apart, each at its first occurrence.
Written down again, alone or with placeholders, they declare themselves. -/
theorem declaredKeys_canonical (declaration : Text) :
    (∀ key, key ∈ declaredKeys declaration ↔
      key ≠ [] ∧ ∃ piece ∈ declaration.splitOn '&', Declares piece key) ∧
    (declaredKeys declaration).Nodup ∧
    ((declaredKeys declaration).Pairwise fun key later =>
      firstPlace declaration key < firstPlace declaration later) ∧
    (∀ key ∈ declaredKeys declaration, '&' ∉ key ∧ '=' ∉ key ∧ key.Tight) ∧
    declaredKeys (Text.join ['&'] ((declaredKeys declaration).map (· ++ ['=', '\x7b', '\x7d']))) =
      declaredKeys declaration ∧
    declaredKeys (Text.join ['&'] (declaredKeys declaration)) = declaredKeys declaration := by
  have hkeys : ∀ key ∈ declaredKeys declaration, IsKey key := fun _ => isKey_of_mem
  have hnodup := nodup_declaredKeys declaration
  refine ⟨?_, hnodup, pairwise_declaredKeys declaration, ?_, ?_, ?_⟩
  · intro key
    simp only [mem_declaredKeys, declares_iff, declaredKey]
  · intro key hkey
    have hkey := hkeys key hkey
    exact ⟨hkey.unseparated, hkey.unmarked, hkey.tight⟩
  · exact declaredKeys_join hkeys hnodup (by decide) (by decide)
  · have hbare : declaredKeys (Text.join ['&'] ((declaredKeys declaration).map (· ++ []))) = _ :=
      declaredKeys_join hkeys hnodup (.inl rfl) List.not_mem_nil
    rwa [List.map_id'' List.append_nil] at hbare

theorem declaredKeys_canonical_blanks :
    let declaration : Text := [' ', 'q', '=', '1', '&', '&', 'q', '&', '=', '&', 'p', ' ', 'p']
    declaredKeys declaration = [['q'], ['p', ' ', 'p']] ∧
      ['p', ' ', 'p'] ∈ declaredKeys declaration ∧
      '&' ∉ ['p', ' ', 'p'] ∧ '=' ∉ ['p', ' ', 'p'] ∧ Text.Tight ['p', ' ', 'p'] := by
  intro declaration
  have hkeys : declaredKeys declaration = [['q'], ['p', ' ', 'p']] := by decide
  have hmem : ['p', ' ', 'p'] ∈ declaredKeys declaration := by
    rw [hkeys]
    exact List.mem_cons_of_mem _ List.mem_cons_self
  exact ⟨hkeys, hmem, (declaredKeys_canonical declaration).2.2.2.1 _ hmem⟩

end Query

end RouteTree
