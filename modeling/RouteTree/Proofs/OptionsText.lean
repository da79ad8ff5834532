import RouteTree.RoutesFile
import RouteTree.Proofs.JsonReading

namespace RouteTree

namespace Json

def membersOfText? (t : Text) : Option (List (Text × Json)) :=
  match Written.ofText? t with
  | some (.object members) =>
      if (Written.object members).nesting ≤ maxNesting then Written.memberValues? members else none
  | _ => none

def valueIn (t : Text) : Json := (writtenIn t).value?.getD .null

/-- Reads a text as a value that is to stand one level below the top of another. -/
def readBelow? (t : Text) : Option Json :=
  (Written.ofText? t).bind (RoutesFile.nested? Written.value?)

theorem isSome_readBelow? {t : Text} :
    (readBelow? t).isSome ↔ (Written.ofText? t).isSome ∧ (writtenIn t).nesting < maxNesting ∧
      (writtenIn t).value?.isSome := by
  rw [readBelow?, writtenIn]
  cases Written.ofText? t with
  | none => simp
  | some written =>
      rw [Option.bind_some, Option.getD_some, RoutesFile.nested?]
      split <;> simp [*]

section

variable {members : List (Text × Text)}

theorem ofText?_objectText_eq_map (h : ∀ member ∈ members, (Written.ofText? member.2).isSome) :
    ofText? (objectText members) =
      (membersOfText? (objectText members)).map fun values => .object (Entries.collect values) := by
  rw [ofText?, ofTextWith?, membersOfText?, ofText?_objectText h, Option.bind_some]
  dsimp only
  split <;> rfl

theorem membersOfText?_objectText (h : ∀ member ∈ members, (Written.ofText? member.2).isSome)
    {values : List (Text × Json)} (hvalues : membersOfText? (objectText members) = some values) :
    values = members.map fun member => (member.1, valueIn member.2) := by
  rw [membersOfText?, ofText?_objectText h] at hvalues
  dsimp only at hvalues
  rw [memberValues?_membersIn] at hvalues
  split at hvalues
  · split at hvalues
    · exact (Option.some.inj hvalues).symm
    · cases hvalues
  · cases hvalues

theorem isSome_membersOfText?_objectText
    (h : ∀ member ∈ members, (readBelow? member.2).isSome) :
    (membersOfText? (objectText members)).isSome := by
  simp only [isSome_readBelow?] at h
  have hnesting : (Written.object (membersIn members)).nesting ≤ maxNesting := by
    refine membersNesting_lt (by decide) ?_
    intro written hwritten
    obtain ⟨member, hmember, rfl⟩ := List.mem_map.mp hwritten
    exact (h member hmember).2.1
  rw [membersOfText?, ofText?_objectText fun member hmember => (h member hmember).1]
  dsimp only
  rw [if_pos hnesting, memberValues?_membersIn, if_pos fun member hmember => (h member hmember).2.2]
  rfl

end

end Json

namespace Options

/-- Some members of the options in any order, with `extra` ones among them. What is left out has its
initial value. -/
structure Spelling {α : Type} (o : Options) (write : Json → α) (kept omitted : List (Text × Json))
    (extra members : List (Text × α)) : Prop where
  chosen : o.members.Perm (kept ++ omitted)
  initial : ∀ member ∈ omitted, member ∈ initial.members
  other : ∀ member ∈ extra, member.1 ∉ Entries.keys o.members
  spelled : members.Perm (kept.map (fun member => (member.1, write member.2)) ++ extra)

section

variable {α β : Type} {o : Options} {kept omitted : List (Text × Json)}

theorem Spelling.mem_of_mem_kept {write : Json → α} {extra members : List (Text × α)}
    (h : o.Spelling write kept omitted extra members) {member : Text × Json}
    (hmember : member ∈ kept) : member ∈ o.members :=
  h.chosen.mem_iff.mpr (List.mem_append_left omitted hmember)

theorem Spelling.map {write : Json → α} {write' : Json → β} {extra members : List (Text × α)}
    (h : o.Spelling write kept omitted extra members) (read : α → β)
    (hread : ∀ member ∈ o.members, read (write member.2) = write' member.2) :
    o.Spelling write' kept omitted (extra.map fun member => (member.1, read member.2))
      (members.map fun member => (member.1, read member.2)) where
  chosen := h.chosen
  initial := h.initial
  other := by
    intro member hmember
    obtain ⟨member, hextra, rfl⟩ := List.mem_map.mp hmember
    exact h.other member hextra
  spelled := by
    have hspelled := h.spelled.map fun member => (member.1, read member.2)
    rw [List.map_append, List.map_map] at hspelled
    have hkept : kept.map ((fun member => (member.1, read member.2)) ∘
        fun member => (member.1, write member.2)) =
          kept.map fun member => (member.1, write' member.2) :=
      List.map_congr_left fun member hmember =>
        congrArg (Prod.mk member.1) (hread member (h.mem_of_mem_kept hmember))
    rwa [hkept] at hspelled

theorem mem_of_filter_eq_singleton {p : α → Bool} {as : List α} {a : α}
    (h : as.filter p = [a]) : a ∈ as :=
  (List.mem_filter.mp (h.symm ▸ List.mem_singleton_self a)).1

variable {extra fields : List (Text × Field)}

theorem Spelling.member?_eq (h : o.Spelling Field.ofJson kept omitted extra fields) {key : Text}
    {value value₀ : Json} {read? : Field → Option α} {default a : α}
    (hmember : (o.members.filter fun member => member.1 == key) = [(key, value)])
    (hinitial : (Options.initial.members.filter fun member => member.1 == key) = [(key, value₀)])
    (hread : read? (.ofJson value) = some a) (hdefault : read? (.ofJson value₀) = some default) :
    member? read? default key fields = some a := by
  have hextra : (extra.filter fun field => field.1 == key) = [] := by
    rw [List.filter_eq_nil_iff]
    intro field hfield heq
    refine h.other field hfield ?_
    rw [beq_iff_eq.mp heq]
    exact List.mem_map_of_mem (mem_of_filter_eq_singleton hmember)
  have hfields := h.spelled.filter fun field => field.1 == key
  have hmap : ((kept.map fun member => (member.1, Field.ofJson member.2)).filter
      fun field => field.1 == key) =
        (kept.filter fun member => member.1 == key).map
          fun member => (member.1, Field.ofJson member.2) := List.filter_map
  rw [List.filter_append, hextra, List.append_nil, hmap] at hfields
  -- The member with the key is kept or left out, and it is the only one.
  have hsplit := (h.chosen.filter fun member => member.1 == key).symm
  rw [hmember, List.filter_append, List.perm_singleton] at hsplit
  rw [member?]
  rcases List.append_eq_singleton_iff.mp hsplit with ⟨hkept, homitted⟩ | ⟨hkept, -⟩
  · have hvalue : (key, value) ∈ Options.initial.members.filter fun member => member.1 == key :=
      List.mem_filter.mpr
        ⟨h.initial _ (mem_of_filter_eq_singleton homitted), beq_self_eq_true key⟩
    rw [hinitial, List.mem_singleton] at hvalue
    cases hvalue
    rw [hkept, List.map_nil, List.perm_nil] at hfields
    rw [hfields, ← hdefault, hread]
  · rw [hkept, List.map_singleton, List.perm_singleton] at hfields
    rw [hfields]
    exact hread

theorem Spelling.ofFields?_eq (h : o.Spelling Field.ofJson kept omitted extra fields) :
    ofFields? fields = some o := by
  have hprepend : member? Field.optionalText? Options.initial.prepend prependKey fields =
      some o.prepend := h.member?_eq rfl rfl (by cases o.prepend <;> rfl) rfl
  have hbaseKey : member? Field.text? Options.initial.baseKey baseKeyKey fields =
      some o.baseKey := h.member?_eq rfl rfl rfl rfl
  have hleadingSlash : member? Field.flag? Options.initial.enforceLeadingSlash leadingSlashKey
      fields = some o.enforceLeadingSlash := h.member?_eq rfl rfl rfl rfl
  have hstrictKeys : member? Field.flag? Options.initial.format.strictKeys strictKeysKey fields =
      some o.format.strictKeys := h.member?_eq rfl rfl rfl rfl
  have hcheck : member? Field.check? Options.initial.format.check checkKey fields =
      some o.format.check := h.member?_eq rfl rfl (by cases o.format.check <;> rfl) rfl
  have hsigil : member? Field.character? Options.initial.format.sigil sigilKey fields =
      some o.format.sigil := h.member?_eq rfl rfl rfl rfl
  have hpercentEncode : member? Field.flag? Options.initial.format.percentEncode percentEncodeKey
      fields = some o.format.percentEncode := h.member?_eq rfl rfl rfl rfl
  rw [ofFields?, hprepend, hbaseKey, hleadingSlash, hstrictKeys, hcheck, hsigil, hpercentEncode]
  rfl

end

theorem ofJsonText?_eq_bind (t : Text) :
    ofJsonText? t = (Json.membersOfText? t).bind fun members =>
      ofFields? (members.map fun (key, value) => (key, Field.ofJson value)) := by
  rw [ofJsonText?, Json.membersOfText?]
  cases Json.Written.ofText? t with
  | none => rfl
  | some written =>
      rw [Option.bind_some]
      cases written with
      | object members =>
          dsimp only
          split <;> rfl
      | _ => split <;> rfl

theorem Spelling.ofJsonText?_eq_some {o : Options} {kept omitted extra values : List (Text × Json)}
    {t : Text} (h : o.Spelling id kept omitted extra values)
    (ht : Json.membersOfText? t = some values) : ofJsonText? t = some o := by
  rw [ofJsonText?_eq_bind, ht]
  exact (h.map Field.ofJson fun _ _ => rfl).ofFields?_eq

theorem value?_written_string (s : Text) : (Json.string s).written.value? = some (.string s) := by
  rw [Json.written, Json.Written.value?, Json.Written.valueWith?, Json.partsText?_map_ofChar]
  rfl

theorem written_of_mem_members (o : Options) : ∀ member ∈ o.members,
    member.2.written.value? = some member.2 ∧ member.2.written.nesting = 0 := by
  simp only [members, List.forall_mem_cons]
  refine ⟨?prepend, ⟨value?_written_string _, rfl⟩, ⟨rfl, rfl⟩, ⟨rfl, rfl⟩, ?check,
    ⟨value?_written_string _, rfl⟩, ⟨rfl, rfl⟩, List.forall_mem_nil _⟩
  case prepend =>
    cases o.prepend with
    | none => exact ⟨rfl, rfl⟩
    | some text => exact ⟨value?_written_string text, rfl⟩
  case check =>
    cases o.format.check with
    | off => exact ⟨rfl, rfl⟩
    | standard => exact ⟨rfl, rfl⟩
    | pattern source => exact ⟨value?_written_string source, rfl⟩

section

variable {o : Options} {kept omitted : List (Text × Json)} {extra members : List (Text × Text)}

theorem Spelling.forall_mem (h : o.Spelling Json.text kept omitted extra members)
    (p : Text → Prop) (hkept : ∀ member ∈ o.members, p member.2.text)
    (hextra : ∀ member ∈ extra, p member.2) : ∀ member ∈ members, p member.2 := by
  intro member hmember
  rcases List.mem_append.mp (h.spelled.mem_iff.mp hmember) with hmember | hmember
  · obtain ⟨choice, hchoice, rfl⟩ := List.mem_map.mp hmember
    exact hkept choice (h.mem_of_mem_kept hchoice)
  · exact hextra member hmember

theorem Spelling.values (h : o.Spelling Json.text kept omitted extra members) :
    o.Spelling id kept omitted (extra.map fun member => (member.1, Json.valueIn member.2))
      (members.map fun member => (member.1, Json.valueIn member.2)) := by
  refine h.map Json.valueIn ?_
  intro member hmember
  rw [Json.valueIn, Json.writtenIn_text, (written_of_mem_members o member hmember).1]
  rfl

theorem Spelling.ofJsonText?_eq_map (h : o.Spelling Json.text kept omitted extra members)
    (hextra : ∀ member ∈ extra, (Json.Written.ofText? member.2).isSome) :
    ofJsonText? (Json.objectText members) =
      (Json.ofText? (Json.objectText members)).map fun _ => o := by
  have hkept : ∀ member ∈ o.members, (Json.Written.ofText? member.2.text).isSome := by
    intro member _
    rw [Json.ofText?_text]
    rfl
  have hwritten := h.forall_mem (fun t => (Json.Written.ofText? t).isSome) hkept hextra
  rw [Json.ofText?_objectText_eq_map hwritten]
  cases hvalues : Json.membersOfText? (Json.objectText members) with
  | none =>
      rw [ofJsonText?_eq_bind, hvalues]
      rfl
  | some values =>
      rw [Json.membersOfText?_objectText hwritten hvalues] at hvalues
      exact h.values.ofJsonText?_eq_some hvalues

theorem Spelling.self (o : Options) :
    o.Spelling Json.text o.members [] []
      (o.members.map fun member => (member.1, member.2.text)) where
  chosen := by rw [List.append_nil]
  initial := nofun
  other := nofun
  spelled := by rw [List.append_nil]

theorem isSome_readBelow?_of_mem_members {o : Options} : ∀ member ∈ o.members,
    (Json.readBelow? member.2.text).isSome := by
  intro member hmember
  obtain ⟨hvalue, hnesting⟩ := written_of_mem_members o member hmember
  rw [Json.isSome_readBelow?, Json.ofText?_text, Json.writtenIn_text, hvalue, hnesting]
  exact ⟨rfl, by decide, rfl⟩

theorem Spelling.ofJsonText?_objectText (h : o.Spelling Json.text kept omitted extra members)
    (hextra : ∀ member ∈ extra, (Json.readBelow? member.2).isSome) :
    ofJsonText? (Json.objectText members) = some o := by
  have hbelow := h.forall_mem (fun t => (Json.readBelow? t).isSome)
    isSome_readBelow?_of_mem_members hextra
  have hwritten : ∀ member ∈ members, (Json.Written.ofText? member.2).isSome :=
    fun member hmember => (Json.isSome_readBelow?.mp (hbelow member hmember)).1
  obtain ⟨values, hvalues⟩ :=
    Option.isSome_iff_exists.mp (Json.isSome_membersOfText?_objectText hbelow)
  rw [Json.membersOfText?_objectText hwritten hvalues] at hvalues
  exact h.values.ofJsonText?_eq_some hvalues

end

/-- Options are read from their text, from any text that is read as a spelling of them, and from an
object that spells them, if its other members have values that can be read. -/
theorem ofJsonText?_of_spelling (o : Options) :
    ofJsonText? o.toJson.text = some o ∧
      (∀ {kept omitted extra values : List (Text × Json)} {t : Text},
        o.Spelling id kept omitted extra values → Json.membersOfText? t = some values →
          ofJsonText? t = some o) ∧
      ∀ {kept omitted : List (Text × Json)} {extra members : List (Text × Text)},
        o.Spelling Json.text kept omitted extra members →
          ((∀ member ∈ extra, (Json.Written.ofText? member.2).isSome) →
            ofJsonText? (Json.objectText members) =
              (Json.ofText? (Json.objectText members)).map fun _ => o) ∧
          ((∀ member ∈ extra, (Json.readBelow? member.2).isSome) →
            ofJsonText? (Json.objectText members) = some o) := by
  refine ⟨?_, fun h ht => h.ofJsonText?_eq_some ht,
    fun h => ⟨h.ofJsonText?_eq_map, h.ofJsonText?_objectText⟩⟩
  rw [toJson, Json.text_object]
  exact (Spelling.self o).ofJsonText?_objectText nofun

/-- A pattern that looks like a flag; the sigil is a quote, so that it is escaped. -/
def flagLikePattern : Options :=
  ⟨none, ['_'], false, ⟨true, .pattern "true".toList, '"', true⟩⟩

theorem ofJsonText?_of_spelling_rearranged :
    let omitted : List (Text × Json) := [(prependKey, .null), (baseKeyKey, .string ['_']),
      (leadingSlashKey, .bool false), (strictKeysKey, .bool true)]
    let kept : List (Text × Json) := [(checkKey, .string "true".toList), (sigilKey, .string ['"']),
      (percentEncodeKey, .bool true)]
    let extra : List (Text × Text) := [("sigils".toList, " [null, [] ] ".toList),
      ("regex ".toList, "7".toList)]
    let members : List (Text × Text) := [("regex ".toList, "7".toList),
      ("sigils".toList, " [null, [] ] ".toList), (percentEncodeKey, "true".toList),
      (sigilKey, ['"', '\\', '"', '"']), (checkKey, '"' :: ("true".toList ++ ['"']))]
    let other : List (Text × Json) := [(['a'], .array [])]
    let spaced : Text := ['\x7b', ' ', '"', '\\', 'u', '0', '0', '7', '2', 'e', 'g', 'e', 'x', '"',
      ':', '"', 't', 'r', 'u', 'e', '"', ',', ' ', '"', 's', 'i', 'g', 'i', 'l', '"', ' ', ':', '"',
      '\\', 'u', '0', '0', '2', '2', '"', ',', '"', 'p', 'e', 'r', 'c', 'e', 'n', 't', '_', 'e',
      'n', 'c', 'o', 'd', 'e', '"', ':', 't', 'r', 'u', 'e', ',', '"', 'a', '"', ':', '[', ' ', ']',
      '\x7d']
    (flagLikePattern.Spelling Json.text kept omitted extra members ∧
      (∀ member ∈ extra, (Json.readBelow? member.2).isSome) ∧
      ofJsonText? (Json.objectText members) = some flagLikePattern) ∧
    flagLikePattern.Spelling id kept omitted other (kept ++ other) ∧
      Json.membersOfText? spaced = some (kept ++ other) ∧
      ofJsonText? spaced = some flagLikePattern := by
  intro omitted kept extra members other spaced
  have hspelling : flagLikePattern.Spelling Json.text kept omitted extra members := {
    chosen := @List.perm_append_comm _ omitted kept
    initial := fun member hmember => List.mem_append_left _ hmember
    other := by decide
    spelled := List.reverse_perm (kept.map (fun member => (member.1, member.2.text)) ++ extra)
  }
  have hspaced : flagLikePattern.Spelling id kept omitted other (kept ++ other) := {
    chosen := @List.perm_append_comm _ omitted kept
    initial := fun member hmember => List.mem_append_left _ hmember
    other := by
      rw [List.forall_mem_singleton]
      decide
    spelled := List.Perm.refl _
  }
  have hextra : ∀ member ∈ extra, (Json.readBelow? member.2).isSome := by decide
  have hmembers : Json.membersOfText? spaced = some (kept ++ other) := rfl
  exact ⟨⟨hspelling, hextra, ((ofJsonText?_of_spelling _).2.2 hspelling).2 hextra⟩, hspaced,
    hmembers, (ofJsonText?_of_spelling _).2.1 hspaced hmembers⟩

end Options

end RouteTree
