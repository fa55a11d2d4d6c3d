import FfiBindings.Markup.Event

/-!
# Events of fields

From the tokens of a mapping its events are derived field by field: the goal to read the rest of the
mapping is on top again behind each field. What is derived depends on the kinds of the tokens; their
places only become the places of the events.
-/

namespace FfiBindings.Markup

variable {tokens tokens' rest : List Token} {goals goals' later : List Goal} {kinds : List TokenKind}
  {events events' : List PlacedEvent} {name text : Text} {style : ScalarStyle} {start : Mark}

/-- Meeting goals in a number of steps gives events and leaves other goals to be met. -/
def Yields (count : Nat) (goals : List Goal) (tokens : List Token) (events : List PlacedEvent)
    (later : List Goal) (rest : List Token) : Prop :=
  ∀ fuel, deriveAll none (fuel + count) defaultTags goals tokens =
    let (behind, complaint) := deriveAll none fuel defaultTags later rest
    (events ++ behind, complaint)

theorem Yields.trans {before after : Nat} (first : Yields before goals tokens events goals' tokens')
    (second : Yields after goals' tokens' events' later rest) :
    Yields (after + before) goals tokens (events ++ events') later rest := by
  intro fuel
  rw [← Nat.add_assoc, first, second]
  simp only [List.append_assoc]

/-- One step meets the goal on top. -/
theorem yields_of_derive {goal : Goal} {step : Derivation}
    (derives : derive none defaultTags goal tokens = .ok step) (sameTags : step.tags = defaultTags)
    (goals : List Goal) :
    Yields 1 (goal :: goals) tokens step.events (step.goals ++ goals) step.tokens := by
  intro fuel
  rw [deriveAll, derives]
  simp only [sameTags]

/-- The tokens of a row of kinds are tokens of these kinds in some places. -/
theorem exists_of_kinds {kind : TokenKind} (shape : tokens.map (·.kind) = kind :: kinds) :
    ∃ start stop rest, tokens = ⟨kind, start, stop⟩ :: rest ∧ rest.map (·.kind) = kinds := by
  obtain ⟨⟨_, start, stop⟩, rest, rfl, rfl, isRest⟩ := List.map_eq_cons_iff.mp shape
  exact ⟨start, stop, rest, rfl, isRest⟩

/-- A stream without directives starts with a document that is a mapping. -/
theorem yields_opening (shape : tokens.map (·.kind) = .streamStart :: .blockMappingStart :: kinds) :
    ∃ start rest, rest.map (·.kind) = kinds ∧
      Yields 3 [.stream] tokens [(.documentStart, start), (.mappingStart none, start)]
        [.blockPairs start, .documentEnd, .document false] rest := by
  obtain ⟨first, stop, opened, rfl, isOpened⟩ := exists_of_kinds shape
  obtain ⟨start, stop, rest, rfl, isRest⟩ := exists_of_kinds isOpened
  have stream : derive none defaultTags .stream
      (⟨.streamStart, first, ‹_›⟩ :: ⟨.blockMappingStart, start, stop⟩ :: rest) =
        .ok ⟨[], [.document true], ⟨.blockMappingStart, start, stop⟩ :: rest, defaultTags⟩ := rfl
  have document : derive none defaultTags (.document true)
      (⟨.blockMappingStart, start, stop⟩ :: rest) =
        .ok ⟨[(.documentStart, start)], [.node true false, .documentEnd, .document false],
          ⟨.blockMappingStart, start, stop⟩ :: rest, defaultTags⟩ := rfl
  have mapping : derive none defaultTags (.node true false)
      (⟨.blockMappingStart, start, stop⟩ :: rest) =
        .ok ⟨[(.mappingStart none, start)], [.blockPairs start], rest, defaultTags⟩ := rfl
  exact ⟨start, rest, isRest, (yields_of_derive stream rfl []).trans
    ((yields_of_derive document rfl []).trans (yields_of_derive mapping rfl _))⟩

/-- Behind the name of a field a node is to be read, and then the rest of the mapping. -/
theorem yields_key {kind : TokenKind}
    (shape : tokens.map (·.kind) = [.key, .scalar name .plain, .value, kind] ++ kinds)
    (isNode : [TokenKind.key, .value, .blockEnd].contains kind = false) (start : Mark)
    (goals : List Goal) :
    ∃ place mark stop rest, rest.map (·.kind) = kinds ∧
      Yields 3 (.blockPairs start :: goals) tokens [(.scalar none none name .plain, place)]
        (.node true true :: .blockPairs start :: goals) (⟨kind, mark, stop⟩ :: rest) := by
  obtain ⟨keyStart, keyStop, atName, rfl, isName⟩ := exists_of_kinds shape
  obtain ⟨place, nameStop, atValue, rfl, isValue⟩ := exists_of_kinds isName
  obtain ⟨valueStart, valueStop, atNode, rfl, isNext⟩ := exists_of_kinds isValue
  obtain ⟨mark, stop, rest, rfl, isRest⟩ := exists_of_kinds isNext
  have key : derive none defaultTags (.blockPairs start) (⟨.key, keyStart, keyStop⟩ ::
      ⟨.scalar name .plain, place, nameStop⟩ :: ⟨.value, valueStart, valueStop⟩ ::
        ⟨kind, mark, stop⟩ :: rest) =
      .ok ⟨[], [.node true true, .blockValue, .blockPairs start],
        ⟨.scalar name .plain, place, nameStop⟩ :: ⟨.value, valueStart, valueStop⟩ ::
          ⟨kind, mark, stop⟩ :: rest, defaultTags⟩ := rfl
  have node : derive none defaultTags (.node true true) (⟨.scalar name .plain, place, nameStop⟩ ::
      ⟨.value, valueStart, valueStop⟩ :: ⟨kind, mark, stop⟩ :: rest) =
      .ok ⟨[(.scalar none none name .plain, place)], [],
        ⟨.value, valueStart, valueStop⟩ :: ⟨kind, mark, stop⟩ :: rest, defaultTags⟩ := rfl
  have value : derive none defaultTags .blockValue
      (⟨.value, valueStart, valueStop⟩ :: ⟨kind, mark, stop⟩ :: rest) =
      .ok ⟨[], [.node true true], ⟨kind, mark, stop⟩ :: rest, defaultTags⟩ := by
    have goesOn : Token.isAny ⟨kind, mark, stop⟩ [.key, .value, .blockEnd] = false := isNode
    change (if Token.isAny ⟨kind, mark, stop⟩ [.key, .value, .blockEnd] then _ else _) = _
    rw [goesOn]
    rfl
  exact ⟨place, mark, stop, rest, isRest, (yields_of_derive key rfl _).trans
    ((yields_of_derive node rfl _).trans (yields_of_derive value rfl _))⟩

/-- A field with a text gives the events of its name and its text. -/
theorem yields_field
    (shape : tokens.map (·.kind) = [.key, .scalar name .plain, .value, .scalar text style] ++ kinds)
    (start : Mark) (goals : List Goal) :
    ∃ place mark rest, rest.map (·.kind) = kinds ∧
      Yields 4 (.blockPairs start :: goals) tokens
        [(.scalar none none name .plain, place), (.scalar none none text style, mark)]
        (.blockPairs start :: goals) rest := by
  obtain ⟨place, mark, stop, rest, isRest, key⟩ := yields_key shape rfl start goals
  have node : derive none defaultTags (.node true true) (⟨.scalar text style, mark, stop⟩ :: rest) =
      .ok ⟨[(.scalar none none text style, mark)], [], rest, defaultTags⟩ := rfl
  exact ⟨place, mark, rest, isRest, key.trans (yields_of_derive node rfl _)⟩

/-- A field with a mapping gives the event of its name and opens the mapping. -/
theorem yields_nested
    (shape : tokens.map (·.kind) = [.key, .scalar name .plain, .value, .blockMappingStart] ++ kinds)
    (start : Mark) (goals : List Goal) :
    ∃ place mark rest, rest.map (·.kind) = kinds ∧
      Yields 4 (.blockPairs start :: goals) tokens
        [(.scalar none none name .plain, place), (.mappingStart none, mark)]
        (.blockPairs mark :: .blockPairs start :: goals) rest := by
  obtain ⟨place, mark, stop, rest, isRest, key⟩ := yields_key shape rfl start goals
  have node : derive none defaultTags (.node true true) (⟨.blockMappingStart, mark, stop⟩ :: rest) =
      .ok ⟨[(.mappingStart none, mark)], [.blockPairs mark], rest, defaultTags⟩ := rfl
  exact ⟨place, mark, rest, isRest, key.trans (yields_of_derive node rfl _)⟩

/-- Where a mapping ends its event does. -/
theorem yields_close (shape : tokens.map (·.kind) = .blockEnd :: kinds) (start : Mark)
    (goals : List Goal) :
    ∃ mark rest, rest.map (·.kind) = kinds ∧
      Yields 1 (.blockPairs start :: goals) tokens [(.mappingEnd, mark)] goals rest := by
  obtain ⟨mark, stop, rest, rfl, isRest⟩ := exists_of_kinds shape
  have ends : derive none defaultTags (.blockPairs start) (⟨.blockEnd, mark, stop⟩ :: rest) =
      .ok ⟨[(.mappingEnd, mark)], [], rest, defaultTags⟩ := rfl
  exact ⟨mark, rest, isRest, yields_of_derive ends rfl goals⟩

/-- At the end of the stream the document ends, and nothing is left to be met. -/
theorem yields_end (shape : tokens.map (·.kind) = [.streamEnd]) :
    ∃ mark, Yields 2 [.documentEnd, .document false] tokens
      [(.documentEnd, mark), (.streamEnd, mark)] [] [] := by
  obtain ⟨mark, stop, rest, rfl, isRest⟩ := exists_of_kinds shape
  obtain rfl := List.map_eq_nil_iff.mp isRest
  have ends : derive none defaultTags .documentEnd [⟨.streamEnd, mark, stop⟩] =
      .ok ⟨[(.documentEnd, mark)], [], [⟨.streamEnd, mark, stop⟩], defaultTags⟩ := rfl
  have last : derive none defaultTags (.document false) [⟨.streamEnd, mark, stop⟩] =
      .ok ⟨[(.streamEnd, mark)], [], [], defaultTags⟩ := rfl
  exact ⟨mark, (yields_of_derive ends rfl _).trans (yields_of_derive last rfl [])⟩

/-- Without goals nothing more is derived. -/
theorem deriveAll_of_yields {count fuel : Nat} (yields : Yields count goals tokens events [] [])
    (enough : count < fuel) : deriveAll none fuel defaultTags goals tokens = (events, none) := by
  obtain ⟨more, rfl⟩ : ∃ more, fuel = more + 1 + count := ⟨fuel - count - 1, by omega⟩
  rw [yields, deriveAll]
  simp only [List.append_nil]

end FfiBindings.Markup
