import RouteTree.Proofs.StrictNames
import RouteTree.Proofs.Substitution
import Mathlib.Data.List.Find

namespace RouteTree

/-- Each of the names receives the same value from both, or none from either. -/
def PathArguments.Agree (names : List Text) (arguments others : PathArguments) : Prop :=
  ∀ name ∈ names, arguments.value? name = others.value? name

namespace Bindings

variable {α : Type}

def SamePairs (values others : Bindings α) : Prop :=
  ∀ entry, entry ∈ values.entries ↔ entry ∈ others.entries

theorem SamePairs.get?_eq {values others : Bindings α} (h : values.SamePairs others) (key : Text) :
    values.get? key = others.get? key := by
  apply Option.ext
  intro value
  rw [get?, get?, Entries.get?_eq_some_iff values.nodup, Entries.get?_eq_some_iff others.nodup]
  exact h (key, value)

theorem SamePairs.size_eq {values others : Bindings α} (h : values.SamePairs others) :
    values.size = others.size :=
  ((List.perm_ext_iff_of_nodup values.nodup.of_map others.nodup.of_map).mpr h).length_eq

theorem samePairs_ofList {pairs others : Entries α} (hnodup : pairs.keys.Nodup)
    (h : pairs.Perm others) : (ofList pairs).SamePairs (ofList others) := by
  intro entry
  have hothers : others.keys.Nodup := (h.map Prod.fst).nodup_iff.mp hnodup
  change entry ∈ Entries.collect pairs ↔ entry ∈ Entries.collect others
  rw [Entries.collect_of_nodup hnodup, Entries.collect_of_nodup hothers]
  exact h.mem_iff

end Bindings

namespace Text

variable {route : Text} {names : List Text} {arguments others : PathArguments}

theorem missingError?_congr (h : arguments.Agree names others) :
    missingError? route names arguments = missingError? route names others := by
  rw [missingError?, missingError?]
  congr 1
  apply List.find?_congr
  intro name hname
  rw [h name hname]

theorem strictError?_congr {strict : Bool} (hvalues : arguments.Agree names others)
    (hcount : strict = true →
      countError? route names arguments = countError? route names others) :
    strictError? strict route names arguments = strictError? strict route names others := by
  cases strict with
  | false => rfl
  | true => simp only [strictError?, hcount rfl, missingError?_congr hvalues]

end Text

namespace PathTemplate

variable {p : PathTemplate} {strict encode : Bool} {route : Text}
  {arguments others : PathArguments}

theorem shown_congr (h : arguments.Agree p.parameters others) :
    p.shown encode arguments = p.shown encode others := by
  rw [shown, shown]
  congr 1
  apply List.map_congr_left
  intro segment hsegment
  cases segment with
  | literal text => rfl
  | parameter name =>
      have hname : name ∈ p.parameters := mem_parameters.mpr ⟨_, hsegment, rfl⟩
      rw [Segment.shown, Segment.shown, h name hname]

theorem fill_congr (hvalues : arguments.Agree p.parameters others)
    (hcount : strict = true → Text.countError? route p.parameters arguments =
      Text.countError? route p.parameters others) :
    p.fill strict encode route (some arguments) = p.fill strict encode route (some others) := by
  rw [fill_eq_orError, fill_eq_orError, shown_congr hvalues,
    Text.strictError?_congr hvalues hcount]

theorem countError?_of_counted (h : p.Counted arguments) :
    Text.countError? route p.parameters arguments = none := by
  cases arguments with
  | scalar value => rfl
  | named values => exact if_pos h

end PathTemplate

theorem Formatter.url_congr {f : Formatter} {arguments others : PathArguments}
    {search : Option (Bindings Value)}
    (h : f.path.fill f.format.strict f.format.encode f.template (some arguments) =
      f.path.fill f.format.strict f.format.encode f.template (some others)) :
    f.url (some arguments) search = f.url (some others) search := by
  simp only [url, draft, h, Option.isSome_some]

namespace Route

variable {r : Route} {arguments others : PathArguments} {search : Option (Bindings Value)}

/-- If names are strict, the path takes the arguments. -/
def Admits (r : Route) (arguments : PathArguments) : Prop :=
  r.formatter.format.strict = true →
    ∃ path, r.formatter.path.fill true r.formatter.format.encode r.template (some arguments) =
      .ok path

theorem Admits.counted (h : r.Admits arguments) (hstrict : r.formatter.format.strict = true) :
    r.formatter.path.Counted arguments := by
  obtain ⟨path, hpath⟩ := h hstrict
  exact ((PathTemplate.fill_eq_ok.mp hpath).1 rfl).1

theorem admits_scalar (r : Route) (value : Value) : r.Admits (.scalar value) :=
  fun _ => ⟨_, PathTemplate.fill_eq_ok.mpr ⟨fun _ => ⟨trivial, fun _ _ => rfl⟩, rfl⟩⟩

theorem admits_of_lenient (h : r.formatter.format.strict = false) : r.Admits arguments :=
  fun hstrict => absurd (h.symm.trans hstrict) Bool.false_ne_true

theorem url_eq_of_agree (harguments : r.Admits arguments) (hothers : r.Admits others)
    (hvalues : arguments.Agree r.parameters others) :
    r.url (some arguments) search = r.url (some others) search := by
  rw [url_some, url_some]
  refine Formatter.url_congr (PathTemplate.fill_congr hvalues ?_)
  intro hstrict
  rw [PathTemplate.countError?_of_counted (harguments.counted hstrict),
    PathTemplate.countError?_of_counted (hothers.counted hstrict)]

theorem url_eq_of_samePairs {values others : Bindings Value} (h : values.SamePairs others) :
    r.url (some (.named values)) search = r.url (some (.named others)) search := by
  rw [url_some, url_some]
  refine Formatter.url_congr (PathTemplate.fill_congr (fun name _ => h.get?_eq name) ?_)
  -- Nothing is known of the count here, but whatever is wrong with it is wrong for both.
  intro _
  rw [Text.countError?, Text.countError?, h.size_eq]

/-- Arguments that are not refused give the same answers if every parameter receives the same from
both: neither an order nor, with lenient names, any other name counts. -/
theorem url_sees_slot_values (r : Route) (search : Option (Bindings Value)) :
    (∀ arguments others, r.Admits arguments → r.Admits others →
        arguments.Agree r.parameters others →
          r.url (some arguments) search = r.url (some others) search) ∧
      (∀ values others : Bindings Value, values.SamePairs others →
        r.url (some (.named values)) search = r.url (some (.named others)) search) ∧
      (∀ pairs others : Entries Value, pairs.keys.Nodup → pairs.Perm others →
        r.url (some (.named (.ofList pairs))) search =
          r.url (some (.named (.ofList others))) search) ∧
      (r.formatter.format.strict = false → ∀ (values : Bindings Value) (key : Text) (value : Value),
        key ∉ r.parameters →
          r.url (some (.named (values.insert key value))) search =
            r.url (some (.named values)) search) ∧
      ∀ (value : Value) (values : Bindings Value), r.Admits (.named values) →
        (∀ name ∈ r.parameters, values.get? name = some value) →
          r.url (some (.scalar value)) search = r.url (some (.named values)) search := by
  refine ⟨?_, ?_, ?_, ?_, ?_⟩
  · intro arguments others harguments hothers hvalues
    exact url_eq_of_agree harguments hothers hvalues
  · intro values others hsame
    exact url_eq_of_samePairs hsame
  · intro pairs others hnodup hperm
    exact url_eq_of_samePairs (Bindings.samePairs_ofList hnodup hperm)
  · intro hlenient values key value hkey
    refine url_eq_of_agree (admits_of_lenient hlenient) (admits_of_lenient hlenient) ?_
    intro name hname
    have hne : key ≠ name := fun heq => hkey (heq ▸ hname)
    exact (Entries.get?_insert key name value values.entries).trans (if_neg hne)
  · intro value values hadmits hvalues
    refine url_eq_of_agree (r.admits_scalar value) hadmits ?_
    exact fun name hname => (hvalues name hname).symm

theorem url_sees_slot_values_repeated :
    let template : Text := ['/', ':', 'i', '/', ':', 'i', '?', 'q']
    let pairs : Entries Value := [(['i'], .string ['/']), (['x'], .null)]
    let values : Bindings Value := .ofList pairs
    (∃ r, ofTemplate ⟨true, true, ':', .off, []⟩ template = .ok r ∧ r.Admits (.named values) ∧
        (∀ name ∈ r.parameters, values.get? name = some (.string ['/'])) ∧
        r.url (some (.scalar (.string ['/']))) none = r.url (some (.named values)) none ∧
        (Entries.keys pairs).Nodup ∧ pairs.Perm pairs.reverse ∧
        r.url (some (.named values)) none = r.url (some (.named (.ofList pairs.reverse))) none) ∧
      ∃ r, ofTemplate ⟨false, true, ':', .off, []⟩ template = .ok r ∧ ['x'] ∉ r.parameters ∧
        r.url (some (.named (values.insert ['x'] .undefined))) none =
          r.url (some (.named values)) none := by
  intro template pairs values
  have hvalues : ∀ name ∈ [['i'], ['i']], values.get? name = some (.string ['/']) := by
    intro name hname
    obtain rfl : name = ['i'] := by simpa using hname
    rfl
  have hnodup : (Entries.keys pairs).Nodup := by decide
  have hperm : pairs.Perm pairs.reverse := pairs.reverse_perm.symm
  refine ⟨⟨_, rfl, fun _ => ⟨_, rfl⟩, hvalues, ?_, hnodup, hperm, ?_⟩, ⟨_, rfl, by decide, ?_⟩⟩
  · exact (url_sees_slot_values _ none).2.2.2.2 _ values (fun _ => ⟨_, rfl⟩) hvalues
  · exact (url_sees_slot_values _ none).2.2.1 pairs pairs.reverse hnodup hperm
  · exact (url_sees_slot_values _ none).2.2.2.1 rfl values ['x'] .undefined (by decide)

end Route

end RouteTree
