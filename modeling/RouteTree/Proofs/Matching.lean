import RouteTree.Pattern

namespace RouteTree

/-! What a pattern matches, said of texts and without places. -/

/-- Words, each between a text before it and a text after it. -/
abbrev Language := Text → Text → Text → Prop

namespace Language

def followedBy (l m : Language) : Language := fun before word after =>
  ∃ first rest, word = first ++ rest ∧ l before first (rest ++ after) ∧
    m (before ++ first) rest after

def times (l : Language) : Nat → Language
  | 0 => fun _ word _ => word = []
  | n + 1 => l.followedBy (l.times n)

theorem times_add {l : Language} {m n : Nat} {before word after : Text} :
    l.times (m + n) before word after ↔
      (l.times m).followedBy (l.times n) before word after := by
  induction m generalizing before word with
  | zero =>
      rw [Nat.zero_add]
      constructor
      · intro h
        exact ⟨[], word, rfl, rfl, by rwa [List.append_nil]⟩
      · intro h
        obtain ⟨_, rest, rfl, rfl, hrest⟩ := h
        rwa [List.append_nil] at hrest
  | succ m ih =>
      rw [Nat.succ_add]
      constructor
      · intro h
        obtain ⟨first, word', rfl, hfirst, hword⟩ := h
        obtain ⟨middle, rest, rfl, hmiddle, hrest⟩ := ih.mp hword
        rw [List.append_assoc] at hfirst
        rw [List.append_assoc] at hrest
        refine ⟨first ++ middle, rest, (List.append_assoc ..).symm, ?_, hrest⟩
        exact ⟨first, middle, rfl, hfirst, hmiddle⟩
      · intro h
        obtain ⟨_, rest, rfl, ⟨first, middle, rfl, hfirst, hmiddle⟩, hrest⟩ := h
        rw [← List.append_assoc] at hrest
        rw [← List.append_assoc] at hfirst
        refine ⟨first, middle ++ rest, List.append_assoc .., hfirst, ?_⟩
        exact ih.mpr ⟨middle, rest, rfl, hmiddle, hrest⟩

theorem exists_times_le_length {l : Language} {n : Nat} {before word after : Text}
    (h : l.times n before word after) :
    ∃ m, m ≤ n ∧ m ≤ word.length ∧ l.times m before word after := by
  induction n generalizing before word with
  | zero => exact ⟨0, Nat.le_refl 0, Nat.zero_le _, h⟩
  | succ n ih =>
      obtain ⟨first, rest, rfl, hfirst, hrest⟩ := h
      obtain ⟨m, hn, hlength, htimes⟩ := ih hrest
      cases first with
      | nil =>
          -- A repetition that matches nothing is left out, so the others start where it did.
          rw [List.append_nil] at htimes
          exact ⟨m, Nat.le_succ_of_le hn, hlength, htimes⟩
      | cons c first =>
          refine ⟨m + 1, Nat.succ_le_succ hn, ?_, _, rest, rfl, hfirst, htimes⟩
          rw [List.length_append, List.length_cons]
          omega

def timesUpTo (l : Language) (n : Nat) : Language := fun before word after =>
  ∃ m, m ≤ n ∧ l.times m before word after

theorem timesUpTo_zero {l : Language} {before word after : Text} :
    l.timesUpTo 0 before word after ↔ word = [] := by
  constructor
  · intro h
    obtain ⟨m, hm, htimes⟩ := h
    obtain rfl := Nat.le_zero.mp hm
    exact htimes
  · intro h
    exact ⟨0, Nat.le_refl 0, h⟩

theorem timesUpTo_succ {l : Language} {n : Nat} {before word after : Text} :
    l.timesUpTo (n + 1) before word after ↔
      word = [] ∨ l.followedBy (l.timesUpTo n) before word after := by
  constructor
  · intro h
    obtain ⟨m, hm, htimes⟩ := h
    cases m with
    | zero => exact .inl htimes
    | succ m =>
        obtain ⟨first, rest, rfl, hfirst, hrest⟩ := htimes
        exact .inr ⟨first, rest, rfl, hfirst, m, Nat.le_of_succ_le_succ hm, hrest⟩
  · intro h
    rcases h with hnil | ⟨first, rest, rfl, hfirst, m, hm, hrest⟩
    · exact ⟨0, Nat.zero_le _, hnil⟩
    · exact ⟨m + 1, Nat.succ_le_succ hm, first, rest, rfl, hfirst, hrest⟩

end Language

def Pattern.Matches : Pattern → Language
  | .empty => fun _ word _ => word = []
  | .char set => fun _ word _ => ∃ c, word = [c] ∧ set.contains c = true
  | .anchor a => fun before word after =>
      word = [] ∧ a.holds before.getLast? after.head? = true
  | .sequence first second => first.Matches.followedBy second.Matches
  | .either left right => fun before word after =>
      left.Matches before word after ∨ right.Matches before word after
  | .repeated p least most => fun before word after =>
      ∃ more, (∀ bound ∈ most, more ≤ bound - least) ∧
        p.Matches.times (least + more) before word after

namespace Pattern

/-- The part of the text between two places is a word of the language. -/
def Between (text : Text) (l : Language) (start finish : Nat) : Prop :=
  ∃ before word after, text = before ++ (word ++ after) ∧ before.length = start ∧
    before.length + word.length = finish ∧ l before word after

/-- From places of the text, a step goes to the ends of the words that begin there. -/
def Follows (text : Text) (l : Language) (step : List Nat → List Nat) : Prop :=
  ∀ places, (∀ place ∈ places, place ≤ text.length) →
    ∀ finish, finish ∈ step places ↔ ∃ start ∈ places, Between text l start finish

section Between

variable {text : Text} {l m : Language} {start finish : Nat}

theorem Between.le_length (h : Between text l start finish) : finish ≤ text.length := by
  obtain ⟨before, word, after, rfl, _, rfl, _⟩ := h
  simp only [List.length_append]
  omega

theorem between_nil (h : start ≤ text.length) :
    Between text (fun _ word _ => word = []) start finish ↔ start = finish := by
  constructor
  · intro hbetween
    obtain ⟨before, word, after, _, rfl, rfl, rfl⟩ := hbetween
    rfl
  · intro heq
    refine ⟨text.take start, [], text.drop start, ?_, ?_, ?_, rfl⟩
    · exact (List.take_append_drop start text).symm
    · exact List.length_take_of_le h
    · rw [List.length_take_of_le h, List.length_nil, Nat.add_zero, heq]

theorem between_followedBy :
    Between text (l.followedBy m) start finish ↔
      ∃ middle, Between text l start middle ∧ Between text m middle finish := by
  constructor
  · intro h
    obtain ⟨before, _, after, htext, hstart, hfinish, first, rest, rfl, hfirst, hrest⟩ := h
    rw [List.append_assoc] at htext
    rw [List.length_append] at hfinish
    refine ⟨before.length + first.length, ?_, ?_⟩
    · exact ⟨before, first, rest ++ after, htext, hstart, rfl, hfirst⟩
    · rw [← List.append_assoc] at htext
      refine ⟨before ++ first, rest, after, htext, List.length_append, ?_, hrest⟩
      rw [List.length_append]
      omega
  · intro h
    obtain ⟨_, ⟨before, first, after, htext, hstart, rfl, hfirst⟩,
      ⟨before', rest, after', htext', hmiddle, hfinish, hrest⟩⟩ := h
    -- Both halves cut the text at the middle place.
    have hcut : before ++ first = before' ∧ after = rest ++ after' := by
      apply List.append_inj
      · rw [List.append_assoc, ← htext, htext']
      · rw [List.length_append, hmiddle]
    obtain ⟨rfl, rfl⟩ := hcut
    refine ⟨before, first ++ rest, after', ?_, hstart, ?_, first, rest, rfl, hfirst, hrest⟩
    · rw [htext, List.append_assoc]
    · rw [← hfinish, List.length_append, List.length_append]
      omega

end Between

section Places

variable {text : Text} {start finish : Nat}

theorem exists_append_of_le_length (h : start ≤ text.length) :
    ∃ before rest, text = before ++ rest ∧ before.length = start :=
  ⟨text.take start, text.drop start, (List.take_append_drop start text).symm,
    List.length_take_of_le h⟩

theorem before?_append (before rest : Text) :
    before? (before ++ rest).toArray before.length = before.getLast? := by
  rw [before?, List.getLast?_eq_getElem?, List.getElem?_toArray]
  cases before with
  | nil => rfl
  | cons c before => exact List.getElem?_append_left (Nat.lt_succ_self before.length)

theorem getElem?_append (before rest : Text) :
    (before ++ rest).toArray[before.length]? = rest.head? := by
  rw [List.getElem?_toArray, List.getElem?_append_right (Nat.le_refl _), Nat.sub_self,
    List.head?_eq_getElem?]

theorem between_char {set : CharSet} (h : start ≤ text.length) :
    Between text (Matches (.char set)) start finish ↔
      text.toArray[start]?.any set.contains = true ∧ start + 1 = finish := by
  constructor
  · intro hbetween
    obtain ⟨before, _, after, rfl, rfl, hfinish, c, rfl, hc⟩ := hbetween
    exact ⟨by rw [getElem?_append]; exact hc, hfinish⟩
  · intro hchar
    obtain ⟨hany, rfl⟩ := hchar
    obtain ⟨before, rest, rfl, rfl⟩ := exists_append_of_le_length h
    rw [getElem?_append] at hany
    cases rest with
    | nil => cases hany
    | cons c after => exact ⟨before, [c], after, rfl, rfl, rfl, c, rfl, hany⟩

theorem between_anchor {a : Anchor} (h : start ≤ text.length) :
    Between text (Matches (.anchor a)) start finish ↔
      a.holds (before? text.toArray start) text.toArray[start]? = true ∧ start = finish := by
  constructor
  · intro hbetween
    obtain ⟨before, _, after, rfl, rfl, rfl, rfl, hholds⟩ := hbetween
    rw [List.nil_append, before?_append, getElem?_append]
    exact ⟨hholds, rfl⟩
  · intro hanchor
    obtain ⟨hholds, rfl⟩ := hanchor
    obtain ⟨before, rest, rfl, rfl⟩ := exists_append_of_le_length h
    rw [before?_append, getElem?_append] at hholds
    exact ⟨before, [], rest, rfl, rfl, rfl, rfl, hholds⟩

end Places

section Steps

variable {text : Text} {l m : Language} {step next : List Nat → List Nat}

theorem Follows.le_length (h : Follows text l step) {places : List Nat}
    (hplaces : ∀ place ∈ places, place ≤ text.length) :
    ∀ place ∈ step places, place ≤ text.length := by
  intro place hplace
  obtain ⟨_, _, hbetween⟩ := (h places hplaces place).mp hplace
  exact hbetween.le_length

theorem Follows.congr (h : Follows text l step)
    (hsame : ∀ before word after, text = before ++ (word ++ after) →
      (l before word after ↔ m before word after)) : Follows text m step := by
  intro places hplaces finish
  rw [h places hplaces finish]
  refine exists_congr fun start => and_congr_right fun _ => ?_
  refine exists_congr fun before => exists_congr fun word => exists_congr fun after => ?_
  refine and_congr_right fun htext => and_congr_right fun _ => and_congr_right fun _ => ?_
  exact hsame before word after htext

theorem follows_id : Follows text (fun _ word _ => word = []) id := by
  intro places hplaces finish
  constructor
  · intro hfinish
    exact ⟨finish, hfinish, (between_nil (hplaces finish hfinish)).mpr rfl⟩
  · intro h
    obtain ⟨start, hstart, hbetween⟩ := h
    obtain rfl := (between_nil (hplaces start hstart)).mp hbetween
    exact hstart

theorem Follows.followedBy (hstep : Follows text l step) (hnext : Follows text m next) :
    Follows text (l.followedBy m) fun places => next (step places) := by
  intro places hplaces finish
  rw [hnext _ (hstep.le_length hplaces)]
  simp only [between_followedBy, hstep places hplaces]
  constructor
  · intro h
    obtain ⟨middle, ⟨start, hstart, hfirst⟩, hrest⟩ := h
    exact ⟨start, hstart, middle, hfirst, hrest⟩
  · intro h
    obtain ⟨start, hstart, middle, hfirst, hrest⟩ := h
    exact ⟨middle, ⟨start, hstart, hfirst⟩, hrest⟩

theorem mem_mergePlaces {left right : List Nat} {place : Nat} :
    place ∈ mergePlaces left right ↔ place ∈ left ∨ place ∈ right := by
  by_cases hleft : place ∈ left <;> simp [mergePlaces, hleft]

theorem Follows.merge (hstep : Follows text l step) (hnext : Follows text m next) :
    Follows text (fun before word after => l before word after ∨ m before word after)
      fun places => mergePlaces (step places) (next places) := by
  have hor : ∀ start finish,
      Between text (fun before word after => l before word after ∨ m before word after)
          start finish ↔
        Between text l start finish ∨ Between text m start finish := by
    intro start finish
    simp only [Between, and_or_left, exists_or]
  intro places hplaces finish
  rw [mem_mergePlaces, hstep places hplaces, hnext places hplaces]
  simp only [hor, and_or_left, exists_or]

theorem Follows.iterate (h : Follows text l step) (n : Nat) :
    Follows text (l.times n) (Pattern.iterate step n) := by
  induction n with
  | zero => exact follows_id
  | succ n ih =>
      intro places hplaces finish
      -- With no place left the iteration stops early; otherwise it is one step and `n` more.
      cases places with
      | nil => simp [Pattern.iterate]
      | cons place rest => exact (h.followedBy ih) (place :: rest) hplaces finish

theorem Follows.withinSteps (h : Follows text l step) (n : Nat) :
    Follows text (l.timesUpTo n) (Pattern.withinSteps step n) := by
  induction n with
  | zero =>
      refine follows_id.congr fun before word after _ => ?_
      exact Language.timesUpTo_zero.symm
  | succ n ih =>
      intro places hplaces finish
      cases places with
      | nil => simp [Pattern.withinSteps]
      | cons place rest =>
          have hmore := (follows_id.merge (h.followedBy ih)).congr
            fun before word after _ => Language.timesUpTo_succ.symm
          exact hmore (place :: rest) hplaces finish

end Steps

/-- No more repetitions are tried than the text has characters, and no more are needed. -/
theorem followedBy_timesUpTo {p : Pattern} {least : Nat} {most : Option Nat} {size : Nat}
    {before word after : Text} (hsize : word.length ≤ size) :
    (p.Matches.times least).followedBy
        (p.Matches.timesUpTo (match most with
          | none => size
          | some most => min (most - least) size)) before word after ↔
      Matches (.repeated p least most) before word after := by
  constructor
  · intro h
    obtain ⟨first, rest, rfl, hfirst, more, hmore, hrest⟩ := h
    refine ⟨more, ?_, Language.times_add.mpr ⟨first, rest, rfl, hfirst, hrest⟩⟩
    intro bound hbound
    cases hbound
    exact Nat.le_trans hmore (Nat.min_le_left _ _)
  · intro h
    obtain ⟨more, hbound, htimes⟩ := h
    obtain ⟨first, rest, rfl, hfirst, hrest⟩ := Language.times_add.mp htimes
    obtain ⟨fewer, hfewer, hlength, hrest⟩ := Language.exists_times_le_length hrest
    have hsize : fewer ≤ size := by
      rw [List.length_append] at hsize
      omega
    refine ⟨first, rest, rfl, hfirst, fewer, ?_, hrest⟩
    cases most with
    | none => exact hsize
    | some most => exact Nat.le_min.mpr ⟨Nat.le_trans hfewer (hbound most rfl), hsize⟩

/-- The places that are reached are the ends of the matches. -/
theorem follows_reach (text : Text) (p : Pattern) :
    Follows text p.Matches (reach text.toArray p) := by
  induction p with
  | empty => exact follows_id
  | char set =>
      intro places hplaces finish
      simp only [reach, List.mem_filterMap, Option.ite_none_right_eq_some, Option.some.injEq]
      refine exists_congr fun start => and_congr_right fun hstart => ?_
      exact (between_char (hplaces start hstart)).symm
  | anchor a =>
      intro places hplaces finish
      rw [reach, List.mem_filter]
      constructor
      · intro h
        exact ⟨finish, h.1, (between_anchor (hplaces finish h.1)).mpr ⟨h.2, rfl⟩⟩
      · intro h
        obtain ⟨start, hstart, hbetween⟩ := h
        obtain ⟨hholds, rfl⟩ := (between_anchor (hplaces start hstart)).mp hbetween
        exact ⟨hstart, hholds⟩
  | sequence first second ihfirst ihsecond => exact ihfirst.followedBy ihsecond
  | either left right ihleft ihright => exact ihleft.merge ihright
  | repeated p least most ih =>
      refine ((ih.iterate least).followedBy (ih.withinSteps _)).congr ?_
      intro before word after htext
      apply followedBy_timesUpTo
      rw [List.size_toArray, htext]
      simp only [List.length_append]
      omega

theorem matchesSomewhere_iff {p : Pattern} {text : Text} :
    p.matchesSomewhere text = true ↔
      ∃ before word after, text = before ++ (word ++ after) ∧ p.Matches before word after := by
  have hplaces : ∀ place ∈ List.range (text.length + 1), place ≤ text.length := by
    intro place hplace
    exact Nat.le_of_lt_succ (List.mem_range.mp hplace)
  have hreach := follows_reach text p _ hplaces
  rw [matchesSomewhere, Bool.not_eq_true', List.isEmpty_eq_false_iff_exists_mem]
  constructor
  · intro h
    obtain ⟨finish, hfinish⟩ := h
    obtain ⟨_, _, before, word, after, htext, _, _, hmatch⟩ := (hreach finish).mp hfinish
    exact ⟨before, word, after, htext, hmatch⟩
  · intro h
    obtain ⟨before, word, after, htext, hmatch⟩ := h
    have hstart : before.length ∈ List.range (text.length + 1) := by
      rw [List.mem_range, htext, List.length_append]
      omega
    exact ⟨_, (hreach _).mpr ⟨_, hstart, before, word, after, htext, rfl, rfl, hmatch⟩⟩

end Pattern

end RouteTree
