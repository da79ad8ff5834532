import RouteTree.Proofs.JsonText

namespace RouteTree

namespace Value

mutual
/-- No object in the value has two members with one key. -/
def Distinct : Value → Prop
  | .array items => ItemsDistinct items
  | .object members => (Entries.keys members).Nodup ∧ MembersDistinct members
  | _ => True

def ItemsDistinct : List Value → Prop
  | [] => True
  | item :: rest => item.Distinct ∧ ItemsDistinct rest

def MembersDistinct : List (Text × Value) → Prop
  | [] => True
  | (_, value) :: rest => value.Distinct ∧ MembersDistinct rest
end

mutual
def nesting : Value → Nat
  | .array items => itemsNesting items + 1
  | .object members => membersNesting members + 1
  | _ => 0

def itemsNesting : List Value → Nat
  | [] => 0
  | item :: rest => max item.nesting (itemsNesting rest)

def membersNesting : List (Text × Value) → Nat
  | [] => 0
  | (_, value) :: rest => max value.nesting (membersNesting rest)
end

def IsStructural : Value → Prop
  | .array _ => True
  | .object _ => True
  | _ => False

def normalNumber : Binary64 → Value
  | .finite negative m => .number (if m = .zero then .zero else .finite negative m)
  | _ => .null

mutual
/-- Undefined members are dropped, undefined items and numbers that are not finite are null, zeros
have no sign, and dates are their texts. -/
def normal : Value → Value
  | .undefined => .null
  | .null => .null
  | .bool b => .bool b
  | .number x => normalNumber x
  | .string s => .string s
  | .date d => .string d.text
  | .array items => .array (normalItems items)
  | .object members => .object (normalMembers members)

def normalItems : List Value → List Value
  | [] => []
  | item :: rest => item.normal :: normalItems rest

def normalMembers : List (Text × Value) → List (Text × Value)
  | [] => []
  | (_, .undefined) :: rest => normalMembers rest
  | (key, value) :: rest => (key, value.normal) :: normalMembers rest
end

theorem membersToJson_cons {value : Value} (h : value ≠ .undefined) (key : Text)
    (rest : List (Text × Value)) :
    membersToJson ((key, value) :: rest) = (key, value.toJson) :: membersToJson rest := by
  cases value with
  | undefined => exact absurd rfl h
  | _ => rfl

theorem normalMembers_cons {value : Value} (h : value ≠ .undefined) (key : Text)
    (rest : List (Text × Value)) :
    normalMembers ((key, value) :: rest) = (key, value.normal) :: normalMembers rest := by
  cases value with
  | undefined => exact absurd rfl h
  | _ => rfl

theorem normal_ne_undefined (v : Value) : v.normal ≠ .undefined := by
  cases v with
  | number x => cases x <;> exact nofun
  | _ => exact nofun

theorem ofInt_zero : Binary64.ofInt 0 = .zero := by
  rw [Binary64.ofInt, Binary64.ofRatio, Int.natAbs_zero, Magnitude.nearest?_zero Nat.zero_lt_one]
  rfl

theorem ofInt_truncate {m : Magnitude} (h : m.isWhole = true) (negative : Bool) :
    Binary64.ofInt (if negative then -(m.truncate : Int) else m.truncate) =
      if m = .zero then .zero else .finite negative m := by
  have hnearest := m.nearest?_truncate h
  by_cases hzero : m = .zero
  · rw [if_pos hzero, hzero, Magnitude.zero_truncate, ← ofInt_zero]
    cases negative <;> rfl
  · have htruncate := Magnitude.truncate_pos h hzero
    have hsign :
        decide ((if negative then -(m.truncate : Int) else m.truncate) < 0) = negative := by
      cases negative with
      | false => simp
      | true => simpa using htruncate
    have habs : (if negative then -(m.truncate : Int) else m.truncate).natAbs = m.truncate := by
      cases negative <;> simp
    rw [if_neg hzero, Binary64.ofInt, Binary64.ofRatio, hsign, habs, hnearest]
    rfl

theorem numberJson_cases (x : Binary64) :
    (numberJson x = .null ∧ normalNumber x = .null) ∨
      ∃ n : Json.Number, numberJson x = .number n ∧ normalNumber x = .number (ofNumber n) ∧
        (ofNumber n).isFinite = true := by
  cases x with
  | nan => exact .inl ⟨rfl, rfl⟩
  | infinite negative => exact .inl ⟨rfl, rfl⟩
  | finite negative m =>
      right
      rw [numberJson, normalNumber]
      split
      · rename_i hwhole
        rw [Bool.and_eq_true] at hwhole
        refine ⟨_, rfl, ?_⟩
        rw [ofNumber, ofInt_truncate hwhole.1]
        exact ⟨rfl, by split <;> rfl⟩
      · rename_i hwhole
        have hne : m ≠ .zero := by
          rintro rfl
          rw [Magnitude.zero_isWhole, Magnitude.zero_truncate] at hwhole
          exact hwhole rfl
        refine ⟨_, rfl, ?_⟩
        rw [if_neg hne]
        exact ⟨rfl, rfl⟩

theorem numberJson_zero (negative : Bool) :
    numberJson (.finite negative .zero) = .number (.whole 0) := by
  rw [numberJson, Magnitude.zero_isWhole, Magnitude.zero_truncate]
  cases negative <;> rfl

theorem normalNumber_toJson (x : Binary64) : (normalNumber x).toJson = numberJson x := by
  cases x with
  | nan => rfl
  | infinite negative => rfl
  | finite negative m =>
      rw [normalNumber]
      split
      · rename_i hzero
        rw [hzero, toJson, numberJson_zero]
        exact numberJson_zero false
      · rfl

mutual
theorem normal_toJson (v : Value) : v.normal.toJson = v.toJson := by
  cases v with
  | undefined => rfl
  | null => rfl
  | bool b => rfl
  | number x => exact normalNumber_toJson x
  | string s => rfl
  | date d => rfl
  | array items => exact congrArg Json.array (normalItems_toJson items)
  | object members => exact congrArg Json.object (normalMembers_toJson members)

theorem normalItems_toJson (items : List Value) :
    itemsToJson (normalItems items) = itemsToJson items := by
  cases items with
  | nil => rfl
  | cons item rest =>
      rw [normalItems, itemsToJson, itemsToJson, normal_toJson item, normalItems_toJson rest]

theorem normalMembers_toJson (members : List (Text × Value)) :
    membersToJson (normalMembers members) = membersToJson members := by
  cases members with
  | nil => rfl
  | cons member rest =>
      obtain ⟨key, value⟩ := member
      have hrest := normalMembers_toJson rest
      by_cases hvalue : value = .undefined
      · subst hvalue
        exact hrest
      · rw [normalMembers_cons hvalue, membersToJson_cons hvalue,
          membersToJson_cons value.normal_ne_undefined, normal_toJson value, hrest]
end

theorem keys_normalMembers (members : List (Text × Value)) :
    (Entries.keys (normalMembers members)).Sublist (Entries.keys members) := by
  induction members with
  | nil => exact List.Sublist.refl _
  | cons member rest ih =>
      obtain ⟨key, value⟩ := member
      by_cases hvalue : value = .undefined
      · subst hvalue
        exact ih.cons key
      · rw [normalMembers_cons hvalue]
        exact ih.cons_cons key

theorem keys_membersOfJson (members : List (Text × Json)) :
    Entries.keys (membersOfJson members) = Entries.keys members := by
  induction members with
  | nil => rfl
  | cons member rest ih => rw [membersOfJson, Entries.keys_cons, Entries.keys_cons, ih]

theorem nesting_numberJson (x : Binary64) : (numberJson x).written.nesting = 0 := by
  rcases numberJson_cases x with ⟨hnull, -⟩ | ⟨n, hnumber, -, hfinite⟩
  · rw [hnull]
    rfl
  · obtain ⟨numeral, hwritten, -⟩ := Json.Number.written_of_isFinite hfinite
    rw [hnumber, Json.written, hwritten]
    rfl

mutual
theorem nesting_toJson (v : Value) : v.toJson.written.nesting ≤ v.nesting := by
  cases v with
  | number x => exact Nat.le_of_eq (nesting_numberJson x)
  | array items => exact Nat.succ_le_succ (nesting_itemsToJson items)
  | object members => exact Nat.succ_le_succ (nesting_membersToJson members)
  | _ => exact Nat.le_refl 0

theorem nesting_itemsToJson (items : List Value) :
    Json.Written.itemsNesting (Json.itemsWritten (itemsToJson items)) ≤ itemsNesting items := by
  cases items with
  | nil => exact Nat.le_refl 0
  | cons item rest =>
      have hitem := nesting_toJson item
      have hrest := nesting_itemsToJson rest
      rw [itemsToJson, Json.itemsWritten, Json.Written.itemsNesting, itemsNesting]
      omega

theorem nesting_membersToJson (members : List (Text × Value)) :
    Json.Written.membersNesting (Json.membersWritten (membersToJson members)) ≤
      membersNesting members := by
  cases members with
  | nil => exact Nat.le_refl 0
  | cons member rest =>
      obtain ⟨key, value⟩ := member
      have hvalue := nesting_toJson value
      have hrest := nesting_membersToJson rest
      rw [membersNesting]
      by_cases hundefined : value = .undefined
      · subst hundefined
        exact Nat.le_trans hrest (Nat.le_max_right _ _)
      · rw [membersToJson_cons hundefined, Json.membersWritten, Json.Written.membersNesting]
        omega
end

section

variable {number? : Json.Numeral → Option Json.Number}

theorem exists_number (hnumber : Json.ReadsNearest number?) (x : Binary64) :
    ∃ j, (numberJson x).written.valueWith? number? = some j ∧ ofJson j = normalNumber x := by
  rcases numberJson_cases x with ⟨hnull, hnormal⟩ | ⟨n, hjson, hnormal, hfinite⟩
  · rw [hnull, hnormal]
    exact ⟨.null, rfl, rfl⟩
  · obtain ⟨numeral, hwritten, hspells⟩ := Json.Number.written_of_isFinite hfinite
    rw [← hspells.value] at hfinite
    obtain ⟨y, hread, hy⟩ := hnumber numeral hfinite
    rw [hjson, Json.written, hwritten, Json.Written.valueWith?, hread, hnormal]
    exact ⟨.number y, rfl, congrArg Value.number (hy.trans hspells.value)⟩

mutual
theorem exists_value (hnumber : Json.ReadsNearest number?) (v : Value) (hdistinct : v.Distinct) :
    ∃ j, v.toJson.written.valueWith? number? = some j ∧ ofJson j = v.normal := by
  cases v with
  | undefined => exact ⟨.null, rfl, rfl⟩
  | null => exact ⟨.null, rfl, rfl⟩
  | bool b => exact ⟨.bool b, rfl, rfl⟩
  | number x => exact exists_number hnumber x
  | string s =>
      refine ⟨.string s, ?_, rfl⟩
      rw [toJson, Json.written, Json.Written.valueWith?, Json.partsText?_map_ofChar]
      rfl
  | date d =>
      refine ⟨.string d.text, ?_, rfl⟩
      rw [toJson, Json.written, Json.Written.valueWith?, Json.partsText?_map_ofChar]
      rfl
  | array items =>
      obtain ⟨js, hread, hjs⟩ := exists_items hnumber items hdistinct
      refine ⟨.array js, ?_, congrArg Value.array hjs⟩
      rw [toJson, Json.written, Json.Written.valueWith?, hread]
      rfl
  | object members =>
      obtain ⟨hnodup, hmembers⟩ := hdistinct
      obtain ⟨js, hread, hjs⟩ := exists_members hnumber members hmembers
      -- Members are collected when they are read and once more when they become a value.
      have hnormal := hnodup.sublist (keys_normalMembers members)
      have hkeys : (Entries.keys js).Nodup := by
        rwa [← keys_membersOfJson, hjs]
      refine ⟨.object js, ?_, ?_⟩
      · rw [toJson, Json.written, Json.Written.valueWith?, hread, Option.map_some,
          Entries.collect_of_nodup hkeys]
      · rw [ofJson, hjs, ofMembers, Entries.collect_of_nodup hnormal, normal]

theorem exists_items (hnumber : Json.ReadsNearest number?) (items : List Value)
    (hdistinct : ItemsDistinct items) :
    ∃ js, Json.Written.itemValuesWith? number? (Json.itemsWritten (itemsToJson items)) = some js ∧
      itemsOfJson js = normalItems items := by
  cases items with
  | nil => exact ⟨[], rfl, rfl⟩
  | cons item rest =>
      obtain ⟨j, hitem, hj⟩ := exists_value hnumber item hdistinct.1
      obtain ⟨js, hrest, hjs⟩ := exists_items hnumber rest hdistinct.2
      refine ⟨j :: js, ?_, ?_⟩
      · rw [itemsToJson, Json.itemsWritten, Json.Written.itemValuesWith?, hitem, hrest]
        rfl
      · rw [itemsOfJson, hj, hjs, normalItems]

theorem exists_members (hnumber : Json.ReadsNearest number?) (members : List (Text × Value))
    (hdistinct : MembersDistinct members) :
    ∃ js, Json.Written.memberValuesWith? number? (Json.membersWritten (membersToJson members)) =
        some js ∧ membersOfJson js = normalMembers members := by
  cases members with
  | nil => exact ⟨[], rfl, rfl⟩
  | cons member rest =>
      obtain ⟨key, value⟩ := member
      obtain ⟨js, hrest, hjs⟩ := exists_members hnumber rest hdistinct.2
      by_cases hundefined : value = .undefined
      · subst hundefined
        exact ⟨js, hrest, hjs⟩
      · obtain ⟨j, hvalue, hj⟩ := exists_value hnumber value hdistinct.1
        refine ⟨(key, j) :: js, ?_, ?_⟩
        · rw [membersToJson_cons hundefined, Json.membersWritten, Json.Written.memberValuesWith?,
            Json.partsText?_map_ofChar, hvalue, hrest]
          rfl
        · rw [membersOfJson, hj, hjs, normalMembers_cons hundefined]
end

end

theorem text_of_isStructural {v : Value} (h : v.IsStructural) : v.text = v.toJson.text := by
  cases v with
  | array items => rfl
  | object members => rfl
  | _ => exact absurd h id

theorem IsStructural.normal {v : Value} (h : v.IsStructural) : v.normal.IsStructural := by
  cases v with
  | array items => exact trivial
  | object members => exact trivial
  | _ => exact absurd h id

/-- The text of an array or an object is read as the normal form of the value, if numerals are read
as the numbers nearest to them; and the normal form has the same text. -/
theorem text_reads_back {number? : Json.Numeral → Option Json.Number}
    (hnumber : Json.ReadsNearest number?) (v : Value) (hstructural : v.IsStructural)
    (hdistinct : v.Distinct) (hnesting : v.nesting ≤ Json.maxNesting) :
    (∃ j, Json.ofTextWith? number? v.text = some j ∧ ofJson j = v.normal) ∧
      v.normal.text = v.text := by
  constructor
  · obtain ⟨j, hvalue, hj⟩ := exists_value hnumber v hdistinct
    have hshallow := Nat.le_trans v.nesting_toJson hnesting
    refine ⟨j, ?_, hj⟩
    rw [text_of_isStructural hstructural, Json.ofTextWith?, Json.ofText?_text, Option.bind_some,
      if_pos hshallow, hvalue]
  · rw [text_of_isStructural hstructural.normal, normal_toJson, text_of_isStructural hstructural]

def mixedValue : Value :=
  .object
    [("gone".toList, .undefined),
      ("list".toList,
        .array [.undefined, .number .nan, .number (.finite true .zero),
          .number (.finite false ⟨⟨1019, by decide⟩, ⟨2702159776422298, by decide⟩⟩)]),
      ("text".toList, .string "\"\n".toList)]

theorem text_reads_back_mixed :
    mixedValue.text =
        "\x7b\"list\":[null,null,0,0.1],\"text\":\"\\\"\\n\"\x7d".toList ∧
      mixedValue.normal =
        .object
          [("list".toList,
              .array [.null, .null, .number .zero,
                .number (.finite false ⟨1019, 2702159776422298⟩)]),
            ("text".toList, .string "\"\n".toList)] ∧
      (∀ n ∈ [Json.Numeral.ofWhole 0, .ofBinary false ⟨1019, 2702159776422298⟩],
        n.number? = n.nearestNumber?) ∧
      (∃ j, Json.ofTextWith? Json.Numeral.nearestNumber? mixedValue.text = some j ∧
        ofJson j = mixedValue.normal) ∧
      mixedValue.normal.text = mixedValue.text := by
  have hdistinct : mixedValue.Distinct := by
    simp [mixedValue, Distinct, MembersDistinct, ItemsDistinct, Entries.keys]
  exact ⟨by decide +kernel, rfl, by decide +kernel,
    text_reads_back Json.readsNearest_nearestNumber? mixedValue trivial hdistinct (by decide)⟩

end Value

end RouteTree
