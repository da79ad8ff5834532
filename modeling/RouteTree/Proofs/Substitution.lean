import RouteTree.Proofs.Calls

namespace RouteTree

/-! Substitution in one pass over the pieces of a path, and by position: a path is taken apart into
texts and positions of parameters, and the texts there are overwritten one after the other. -/

namespace Text

/-- The name in a piece that consists of the sigil and a name. -/
def parameterName? (sigil : Char) : Text → Option Text
  | [] => none
  | c :: name => if c = sigil ∧ name ≠ [] then some name else none

def parameterNames (sigil : Char) (source : Text) : List Text :=
  (source.pieces '/').filterMap (parameterName? sigil)

/-- A name without a value leaves its piece as it is. -/
def replaced (encode : Bool) (sigil : Char) (arguments : PathArguments) (piece : Text) : Text :=
  match parameterName? sigil piece with
  | none => piece
  | some name =>
      match arguments.value? name with
      | some value => if encode then value.text.percentEncode else value.text
      | none => piece

def replacedAll (encode : Bool) (sigil : Char) (arguments : PathArguments) (source : Text) : Text :=
  let path := join ['/'] ((source.pieces '/').map (replaced encode sigil arguments))
  if source.head? = some '/' then '/' :: path else path

def countError? (route : Text) (names : List Text) : PathArguments → Option RouteError
  | .scalar _ => none
  | .named values =>
      if values.size = names.length then none
      else some (.parameterCount route names.length values.size)

/-- The error for the first name that has no value. -/
def missingError? (route : Text) (names : List Text) (arguments : PathArguments) :
    Option RouteError :=
  (names.find? fun name => (arguments.value? name).isNone).map (.missingParameter · route)

def strictError? (strict : Bool) (route : Text) (names : List Text) (arguments : PathArguments) :
    Option RouteError :=
  if strict then (countError? route names arguments).or (missingError? route names arguments)
  else none

def substituted (strict encode : Bool) (route : Text) (sigil : Char) (arguments : PathArguments)
    (source : Text) : Except RouteError Text :=
  Outcome.orError (source.replacedAll encode sigil arguments)
    (strictError? strict route (source.parameterNames sigil) arguments)

theorem parameter?_ofPiece (sigil : Char) (piece : Text) :
    (Segment.ofPiece sigil piece).parameter? = parameterName? sigil piece := by
  cases piece with
  | nil => rfl
  | cons c name =>
      cases name with
      | nil => simp [Segment.ofPiece, Segment.parameter?, parameterName?]
      | cons d rest =>
          by_cases hc : c = sigil <;>
            simp [Segment.ofPiece, Segment.parameter?, parameterName?, hc]

theorem shown_ofPiece (encode : Bool) (sigil : Char) (arguments : PathArguments) (piece : Text) :
    (Segment.ofPiece sigil piece).shown encode sigil arguments =
      replaced encode sigil arguments piece := by
  rw [replaced, ← parameter?_ofPiece]
  rcases Segment.ofPiece_cases sigil piece with ⟨name, _, rfl, hsegment⟩ | hsegment
  · rw [hsegment]
    rfl
  · rw [hsegment]
    rfl

theorem replaced_insert {encode : Bool} {sigil : Char} {values : Bindings Value} {name : Text}
    {value : Value} {piece : Text} (h : parameterName? sigil piece ≠ some name) :
    replaced encode sigil (.named (values.insert name value)) piece =
      replaced encode sigil (.named values) piece := by
  unfold replaced
  split
  · rfl
  · rename_i other hother
    have hne : name ≠ other := by
      intro heq
      exact h (heq ▸ hother)
    simp only [PathArguments.value?, Bindings.get?, Bindings.insert, Entries.get?_insert,
      if_neg hne]

end Text

namespace PathTemplate

variable {strict encode : Bool} {route : Text} {sigil : Char} {arguments : PathArguments}

theorem parameters_parse (sigil : Char) (source : Text) :
    (parse sigil source).parameters = source.parameterNames sigil := by
  rw [parameters, parse, List.filterMap_map]
  exact List.filterMap_congr fun piece _ => Text.parameter?_ofPiece sigil piece

theorem shown_parse (encode : Bool) (sigil : Char) (arguments : PathArguments) (source : Text) :
    (parse sigil source).shown encode arguments = source.replacedAll encode sigil arguments := by
  have htexts : (parse sigil source).segments.map (Segment.shown encode sigil arguments) =
      (source.pieces '/').map (Text.replaced encode sigil arguments) := by
    rw [parse, List.map_map]
    exact List.map_congr_left fun piece _ => Text.shown_ofPiece encode sigil arguments piece
  change (parse sigil source).assemble
    ((parse sigil source).segments.map (Segment.shown encode sigil arguments)) = _
  rw [htexts, assemble, Text.replacedAll]
  simp only [leadingSlash, parse, beq_iff_eq]

end PathTemplate

namespace Segment

variable {strict encode : Bool} {route : Text} {sigil : Char} {arguments : PathArguments}

def error? (strict : Bool) (route : Text) (arguments : PathArguments) :
    Segment → Option RouteError
  | .literal _ => none
  | .parameter name =>
      if strict && (arguments.value? name).isNone then some (.missingParameter name route)
      else none

theorem fill_eq_orError (segment : Segment) :
    segment.fill strict encode route sigil arguments =
      Outcome.orError (segment.shown encode sigil arguments)
        (segment.error? strict route arguments) := by
  cases segment with
  | literal text => rfl
  | parameter name =>
      rw [fill_parameter]
      cases hvalue : arguments.value? name <;> cases strict <;> simp [error?, shown, hvalue]

theorem findSome?_error? (strict : Bool) (route : Text) (arguments : PathArguments)
    (segments : List Segment) :
    segments.findSome? (error? strict route arguments) =
      if strict then
        Text.missingError? route (segments.filterMap parameter?) arguments
      else none := by
  induction segments with
  | nil => cases strict <;> rfl
  | cons segment rest ih =>
      rw [List.findSome?_cons, ih]
      cases segment with
      | literal text => rfl
      | parameter name =>
          cases hvalue : arguments.value? name <;> cases strict <;>
            simp [error?, Text.missingError?, parameter?, hvalue]

end Segment

namespace PathTemplate

theorem checkCount_eq_orError (p : PathTemplate) (strict : Bool) (route : Text)
    (arguments : PathArguments) :
    p.checkCount strict route arguments =
      Outcome.orError ()
        (if strict then Text.countError? route p.parameters arguments else none) := by
  cases arguments with
  | scalar value => cases strict <;> rfl
  | named values =>
      cases strict with
      | false => rfl
      | true =>
          by_cases hcount : values.size = p.parameters.length <;>
            simp [checkCount, Text.countError?, parameterCount, hcount]

theorem fill_eq_orError (p : PathTemplate) (strict encode : Bool) (route : Text)
    (arguments : PathArguments) :
    p.fill strict encode route (some arguments) =
      Outcome.orError (p.shown encode arguments)
        (Text.strictError? strict route p.parameters arguments) := by
  have herror : Text.strictError? strict route p.parameters arguments =
      (if strict then Text.countError? route p.parameters arguments else none).or
        (p.segments.findSome? (Segment.error? strict route arguments)) := by
    rw [Segment.findSome?_error?]
    cases strict <;> rfl
  rw [fill, checkCount_eq_orError, Outcome.mapM_eq_orError Segment.fill_eq_orError, herror,
    Outcome.orError_map, Outcome.orError_bind]
  rfl

theorem fill_parse (strict encode : Bool) (route : Text) (sigil : Char)
    (arguments : PathArguments) (source : Text) :
    (parse sigil source).fill strict encode route (some arguments) =
      Text.substituted strict encode route sigil arguments source := by
  rw [fill_eq_orError, shown_parse, parameters_parse]
  rfl

end PathTemplate

/-- The texts of the segments without their sigils, and the positions of the parameters. -/
structure Slots where
  texts : List Text
  positions : List Nat
deriving DecidableEq, Repr

namespace Slots

def push (sigil : Char) (s : Slots) (piece : Text) : Slots :=
  match Segment.ofPiece sigil piece with
  | .literal text => ⟨s.texts ++ [text], s.positions⟩
  | .parameter name => ⟨s.texts ++ [name], s.positions ++ [s.texts.length]⟩

def parse (sigil : Char) (source : Text) : Slots := (source.pieces '/').foldl (push sigil) ⟨[], []⟩

/-- Overwrites the text at a position by the value for the name that was read there. -/
def overwrite (strict encode : Bool) (route : Text) (sigil : Char) (arguments : PathArguments)
    (s : Slots) (texts : List Text) (position : Nat) : Except RouteError (List Text) := do
  let name := s.texts.getD position []
  let text ← Segment.fill strict encode route sigil arguments (.parameter name)
  return texts.set position text

def checkCount (strict : Bool) (route : Text) (s : Slots) : PathArguments → Except RouteError Unit
  | .scalar _ => .ok ()
  | .named values =>
      if strict && values.size != s.positions.length then
        .error (.parameterCount route s.positions.length values.size)
      else .ok ()

def substitute (strict encode : Bool) (route : Text) (sigil : Char) (arguments : PathArguments)
    (source : Text) : Except RouteError Text := do
  let s := parse sigil source
  s.checkCount strict route arguments
  let texts ← s.positions.foldlM (s.overwrite strict encode route sigil arguments) s.texts
  let path := Text.join ['/'] texts
  return if source.head? == some '/' then '/' :: path else path

variable (strict encode : Bool) (route : Text) (sigil : Char) (arguments : PathArguments)

def positionsFrom (start : Nat) (segments : List Segment) : List Nat :=
  (segments.zipIdx start).filterMap fun (segment, index) =>
    if segment.isParameter then some index else none

theorem foldl_push (pieces : List Text) (s : Slots) :
    pieces.foldl (push sigil) s =
      ⟨s.texts ++ (pieces.map (Segment.ofPiece sigil)).map Segment.text,
        s.positions ++ positionsFrom s.texts.length (pieces.map (Segment.ofPiece sigil))⟩ := by
  induction pieces generalizing s with
  | nil => simp [positionsFrom]
  | cons piece rest ih =>
      rw [List.foldl_cons, ih, push]
      cases hpiece : Segment.ofPiece sigil piece with
      | literal text => simp [positionsFrom, hpiece, Segment.text, Segment.isParameter]
      | parameter name => simp [positionsFrom, hpiece, Segment.text, Segment.isParameter]

@[simp] theorem positionsFrom_nil (start : Nat) : positionsFrom start [] = [] := rfl

@[simp] theorem positionsFrom_literal (start : Nat) (text : Text) (rest : List Segment) :
    positionsFrom start (.literal text :: rest) = positionsFrom (start + 1) rest := rfl

@[simp] theorem positionsFrom_parameter (start : Nat) (name : Text) (rest : List Segment) :
    positionsFrom start (.parameter name :: rest) = start :: positionsFrom (start + 1) rest := rfl

/-- The texts before the next position are overwritten, and the others are as they were parsed. -/
theorem foldlM_overwrite {s : Slots} (todo : List Segment) (parsed done : List Text)
    (hs : s.texts = parsed ++ todo.map Segment.text) (hlength : parsed.length = done.length) :
    (positionsFrom done.length todo).foldlM (s.overwrite strict encode route sigil arguments)
        (done ++ todo.map Segment.text) =
      do
        let texts ← todo.mapM (Segment.fill strict encode route sigil arguments)
        return done ++ texts := by
  induction todo generalizing parsed done with
  | nil => simp
  | cons segment rest ih =>
      have hnext : ∀ text, (positionsFrom (done.length + 1) rest).foldlM
          (s.overwrite strict encode route sigil arguments)
          (done ++ text :: rest.map Segment.text) =
          do
            let texts ← rest.mapM (Segment.fill strict encode route sigil arguments)
            return done ++ text :: texts := by
        intro text
        have hrest := ih (parsed ++ [segment.text]) (done ++ [text]) (by simp [hs])
          (by simp [hlength])
        simpa using hrest
      cases segment with
      | literal text =>
          have hfill : Segment.fill strict encode route sigil arguments (.literal text) =
              pure text := rfl
          rw [positionsFrom_literal, List.map_cons, Segment.text, hnext, List.mapM_cons, hfill]
          simp only [bind_assoc, pure_bind]
      | parameter name =>
          have hname : s.texts.getD done.length [] = name := by
            simp [hs, ← hlength, Segment.text]
          have hset : ∀ text, (done ++ name :: rest.map Segment.text).set done.length text =
              done ++ text :: rest.map Segment.text := by simp
          rw [positionsFrom_parameter, List.map_cons, Segment.text, List.foldlM_cons,
            overwrite, hname, List.mapM_cons]
          simp only [bind_assoc, pure_bind, hset, hnext]

theorem parse_eq (source : Text) :
    parse sigil source =
      ⟨(PathTemplate.parse sigil source).segments.map Segment.text,
        (PathTemplate.parse sigil source).parameterIndexes⟩ :=
  (foldl_push sigil (source.pieces '/') ⟨[], []⟩).trans rfl

theorem length_positionsFrom (start : Nat) (segments : List Segment) :
    (positionsFrom start segments).length = (segments.filterMap Segment.parameter?).length := by
  induction segments generalizing start with
  | nil => rfl
  | cons segment rest ih =>
      cases segment with
      | literal text => exact ih (start + 1)
      | parameter name => exact congrArg (· + 1) (ih (start + 1))

theorem checkCount_parse (source : Text) :
    (parse sigil source).checkCount strict route arguments =
      (PathTemplate.parse sigil source).checkCount strict route arguments := by
  have hcount : (parse sigil source).positions.length =
      (PathTemplate.parse sigil source).parameterCount := by
    rw [parse_eq]
    exact length_positionsFrom 0 (PathTemplate.parse sigil source).segments
  cases arguments with
  | scalar value => rfl
  | named values => rw [checkCount, PathTemplate.checkCount, hcount]

theorem substitute_eq_fill (source : Text) :
    substitute strict encode route sigil arguments source =
      (PathTemplate.parse sigil source).fill strict encode route (some arguments) := by
  let segments := (PathTemplate.parse sigil source).segments
  have htexts : (parse sigil source).texts = segments.map Segment.text := by rw [parse_eq]
  have hpositions : (parse sigil source).positions = positionsFrom 0 segments := by
    rw [parse_eq]
    rfl
  have hloop := foldlM_overwrite strict encode route sigil arguments segments [] [] htexts rfl
  simp only [List.length_nil, List.nil_append, bind_pure] at hloop
  rw [substitute, checkCount_parse, hpositions, htexts, hloop]
  rfl

end Slots

/-- Filling the segments of a path is substitution in one pass, as is substitution by position. -/
theorem PathTemplate.fill_in_one_pass (strict encode : Bool) (route : Text) (sigil : Char)
    (source : Text) :
    (parse sigil source).fill strict encode route none = .ok source ∧
      (∀ arguments,
        (parse sigil source).fill strict encode route (some arguments) =
            Text.substituted strict encode route sigil arguments source ∧
          Slots.substitute strict encode route sigil arguments source =
            Text.substituted strict encode route sigil arguments source) ∧
      (∀ value, Text.substituted strict encode route sigil (.scalar value) source =
        .ok (source.replacedAll encode sigil (.scalar value))) ∧
      ∀ values name value piece, Text.parameterName? sigil piece ≠ some name →
        Text.replaced encode sigil (.named (values.insert name value)) piece =
          Text.replaced encode sigil (.named values) piece := by
  refine ⟨rfl, ?_, ?_, ?_⟩
  · intro arguments
    have hfill := fill_parse strict encode route sigil arguments source
    exact ⟨hfill, (Slots.substitute_eq_fill ..).trans hfill⟩
  · intro value
    have hnone : Text.strictError? strict route (source.parameterNames sigil) (.scalar value) =
        none := by
      simp [Text.strictError?, Text.countError?, Text.missingError?, PathArguments.value?]
    rw [Text.substituted, hnone, Outcome.orError_none]
  · intro values name value piece hpiece
    exact Text.replaced_insert hpiece

end RouteTree
