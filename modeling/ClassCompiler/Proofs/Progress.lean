import ClassCompiler.Proofs.TypeGrammar

/-! Progress in type tokens. Here types are parsed by a position in the symbols, and calls may nest
only so deep. On all symbols, well-formed or not, the parser comes to an end where calls may nest a
little deeper than there are symbols left; it never goes back and never leaves the symbols, and it
gives what the reader gives with fuel for the symbols left. -/

namespace ClassCompiler

/-- A computation over symbols that moves a position. A failure keeps the position it came to; there
is no outcome if calls nest too deep. -/
abbrev Parser := ExceptT TypeFault (StateT Nat Option)

namespace Parser

def tooDeep {α : Type} : Parser α := liftM (none : Option α)

section

variable (scope : Scope) (symbols : List Symbol)

def next : Parser (Option Symbol) := do
  let symbol := symbols[← get]?
  if symbol.isSome then modify (· + 1)
  return symbol

def eat (expected : Symbol) : Parser Bool := do
  if symbols[← get]? = some expected then
    modify (· + 1)
    return true
  else return false

/-- Parses the brackets behind a type. Each round counts as a call in the one before. -/
def brackets : Nat → TypeName → Parser TypeName
  | 0, _ => tooDeep
  | depth + 1, type => do
    if ← eat symbols .openBracket then
      if ← eat symbols .closeBracket then brackets depth (.array type)
      else throw .expectedBracket
    else return type

mutual

def type : Nat → Parser TypeName
  | 0 => tooDeep
  | depth + 1 => do
    match ← next symbols with
    | some .question => brackets symbols depth (← wildcard depth)
    | some (.name name) =>
      let inside ← if ← eat symbols .less then arguments depth [] else pure []
      brackets symbols depth (← liftExcept (scope.apply name inside))
    | _ => throw .expectedType

def wildcard : Nat → Parser TypeName
  | 0 => tooDeep
  | depth + 1 => do
    if ← eat symbols (.name "extends") then return .covariant (← type depth)
    else if ← eat symbols (.name "super") then return .contravariant (← type depth)
    else return .wildcard

def arguments : Nat → List TypeName → Parser (List TypeName)
  | 0, _ => tooDeep
  | depth + 1, before => do
    let all := before ++ [← type depth]
    if ← eat symbols .comma then arguments depth all
    else if ← eat symbols .greater then return all
    else throw .expectedAngle

end

end

def Ends {α : Type} (parser : Parser α) (position : Nat) (outcome : Except TypeFault α)
    (stop : Nat) : Prop :=
  parser.run.run position = some (outcome, stop)

/-- From the position, and to any depth that is enough, the parser comes to the same end: within the
symbols, not before the position, and with a result only after `least` symbols. Its outcome is what
was read from the symbols left, and the symbols from the stop are left then. -/
def Follows {α : Type} (symbols : List Symbol) (least enough : Nat) (parser : Nat → Parser α)
    (position : Nat) (read : Except TypeFault (α × List Symbol)) : Prop :=
  ∃ outcome stop, (∀ depth, enough ≤ depth → (parser depth).Ends position outcome stop) ∧
    position ≤ stop ∧ stop ≤ symbols.length ∧ (outcome.isOk → position + least ≤ stop) ∧
    read = (·, symbols.drop stop) <$> outcome

section

variable {α β : Type} {symbols : List Symbol} {symbol : Symbol} {position stop : Nat}

/-! ### Runs of a parser -/

section

variable {parser : Parser α} {outcome : Except TypeFault α}

theorem Ends.unique (ends : parser.Ends position outcome stop) {other : Except TypeFault α}
    {last : Nat} (ends' : parser.Ends position other last) : outcome = other ∧ stop = last := by
  have same := Option.some.inj (ends.symm.trans ends')
  exact ⟨congrArg Prod.fst same, congrArg Prod.snd same⟩

theorem Ends.bind_ok {after : α → Parser β} {result : α} {last : Nat} {final : Except TypeFault β}
    (first : parser.Ends position (.ok result) stop) (second : (after result).Ends stop final last) :
    (parser >>= after).Ends position final last := by
  unfold Ends at first
  simp only [Ends, ExceptT.run_bind, StateT.run_bind, first]
  exact second

theorem Ends.bind_error {after : α → Parser β} {fault : TypeFault}
    (first : parser.Ends position (.error fault) stop) :
    (parser >>= after).Ends position (.error fault) stop := by
  unfold Ends at first
  simp only [Ends, ExceptT.run_bind, StateT.run_bind, first]
  rfl

theorem Ends.of_read {result : α} {last : Nat} (ends : parser.Ends position outcome stop)
    (inside : stop ≤ symbols.length) (behind : last ≤ symbols.length)
    (read : (.ok (result, symbols.drop last) : Except TypeFault (α × List Symbol)) =
      (·, symbols.drop stop) <$> outcome) : parser.Ends position (.ok result) last := by
  cases outcome with
  | error fault => cases read
  | ok found =>
    obtain ⟨rfl, left⟩ := Prod.mk.inj (Except.ok.inj read)
    have lengths := congrArg List.length left
    rw [List.length_drop, List.length_drop] at lengths
    obtain rfl : last = stop := by omega
    exact ends

end

theorem ends_next (symbols : List Symbol) (position : Nat) : (next symbols).Ends position
    (.ok symbols[position]?) (position + symbols[position]?.toList.length) := by
  have spelled : (next symbols).run.run position = (do
      if symbols[position]?.isSome then modify (· + 1)
      return symbols[position]? : Parser (Option Symbol)).run.run position := rfl
  rw [Ends, spelled]
  cases symbols[position]? <;> rfl

theorem ends_eat (symbols : List Symbol) (expected : Symbol) (position : Nat) :
    (eat symbols expected).Ends position (.ok (symbols[position]? = some expected))
      (if symbols[position]? = some expected then position + 1 else position) := by
  have spelled : (eat symbols expected).run.run position = (do
      if symbols[position]? = some expected then
        modify (· + 1)
        return true
      else return false : Parser Bool).run.run position := rfl
  rw [Ends, spelled]
  by_cases found : symbols[position]? = some expected
  · simp only [found, if_true]
    rfl
  · simp only [found, if_false]
    rfl

/-! ### A parser beside a reader -/

section

variable {least enough : Nat} {parser : Nat → Parser α} {read : Except TypeFault (α × List Symbol)}

theorem Follows.pure (inside : position ≤ symbols.length) (result : α) :
    Follows symbols 0 enough (fun _ => pure result) position
      (.ok (result, symbols.drop position)) :=
  ⟨.ok result, position, fun _ _ => rfl, Nat.le_refl _, inside, fun _ => Nat.le_refl _, rfl⟩

theorem Follows.throw (inside : position ≤ symbols.length) (fault : TypeFault) :
    Follows symbols least enough (fun _ => (throw fault : Parser α)) position (.error fault) :=
  ⟨.error fault, position, fun _ _ => rfl, Nat.le_refl _, inside, nofun, rfl⟩

theorem Follows.weaken (follows : Follows symbols least enough parser position read) (more : Nat)
    (more_le : enough ≤ more) : Follows symbols 0 more parser position read := by
  obtain ⟨outcome, stop, ends, onward, inside, -, same⟩ := follows
  exact ⟨outcome, stop, fun depth deep => ends depth (Nat.le_trans more_le deep), onward, inside,
    fun _ => onward, same⟩

theorem Follows.called
    (follows : Follows symbols least enough (fun depth => parser (depth + 1)) position read) :
    Follows symbols least (enough + 1) parser position read := by
  obtain ⟨outcome, stop, ends, moves⟩ := follows
  refine ⟨outcome, stop, fun depth deep => ?_, moves⟩
  obtain ⟨depth, rfl⟩ := Scope.exists_fuel deep
  exact ends depth (Nat.le_of_succ_le_succ deep)

theorem Follows.bind {after : α → Nat → Parser β}
    {continued : α × List Symbol → Except TypeFault (β × List Symbol)}
    (first : Follows symbols least enough parser position read)
    (second : ∀ result stop, position + least ≤ stop → stop ≤ symbols.length →
      Follows symbols 0 enough (after result) stop (continued (result, symbols.drop stop))) :
    Follows symbols least enough (fun depth => parser depth >>= fun result => after result depth)
      position (read >>= continued) := by
  obtain ⟨outcome, stop, ends, onward, inside, taken, rfl⟩ := first
  cases outcome with
  | error fault =>
    exact ⟨.error fault, stop, fun depth deep => (ends depth deep).bind_error, onward, inside,
      nofun, rfl⟩
  | ok result =>
    have moved := taken rfl
    obtain ⟨outcome, last, ends', onward', inside', -, same⟩ := second result stop moved inside
    exact ⟨outcome, last, fun depth deep => (ends depth deep).bind_ok (ends' depth deep),
      Nat.le_trans onward onward', inside', fun _ => Nat.le_trans moved onward', same⟩

theorem Follows.lift (inside : position ≤ symbols.length) (given : Except TypeFault β)
    {after : β → Nat → Parser α} {continued : β → Except TypeFault (α × List Symbol)}
    (rest : ∀ result, Follows symbols least enough (after result) position (continued result)) :
    Follows symbols least enough (fun depth => liftExcept given >>= fun result => after result depth)
      position (given >>= continued) := by
  have passed : (liftExcept given : Parser β).Ends position given position := by
    cases given <;> rfl
  cases given with
  | error fault =>
    exact ⟨.error fault, position, fun _ _ => passed.bind_error, Nat.le_refl _, inside, nofun, rfl⟩
  | ok result =>
    obtain ⟨outcome, stop, ends, moves⟩ := rest result
    exact ⟨outcome, stop, fun depth deep => passed.bind_ok (ends depth deep), moves⟩

theorem Follows.next_some {after : Option Symbol → Nat → Parser α}
    (found : symbols[position]? = some symbol)
    (rest : Follows symbols 0 enough (after (some symbol)) (position + 1) read) :
    Follows symbols 1 enough (fun depth => next symbols >>= fun taken => after taken depth)
      position read := by
  obtain ⟨outcome, stop, ends, onward, inside, -, same⟩ := rest
  have taken := ends_next symbols position
  rw [found] at taken
  exact ⟨outcome, stop, fun depth deep => taken.bind_ok (ends depth deep),
    Nat.le_of_succ_le onward, inside, fun _ => onward, same⟩

theorem Follows.next_none {after : Option Symbol → Nat → Parser α}
    (nothing : symbols[position]? = none)
    (rest : Follows symbols least enough (after none) position read) :
    Follows symbols least enough (fun depth => next symbols >>= fun taken => after taken depth)
      position read := by
  obtain ⟨outcome, stop, ends, moves⟩ := rest
  have stayed := ends_next symbols position
  rw [nothing] at stayed
  exact ⟨outcome, stop, fun depth deep => stayed.bind_ok (ends depth deep), moves⟩

theorem Follows.eat_found {after : Bool → Nat → Parser α}
    (found : symbols[position]? = some symbol)
    (rest : Follows symbols 0 enough (after true) (position + 1) read) :
    Follows symbols 0 enough (fun depth => eat symbols symbol >>= fun eaten => after eaten depth)
      position read := by
  obtain ⟨outcome, stop, ends, onward, inside, -, same⟩ := rest
  have taken := ends_eat symbols symbol position
  simp only [found, if_true, decide_true] at taken
  have onward := Nat.le_of_succ_le onward
  exact ⟨outcome, stop, fun depth deep => taken.bind_ok (ends depth deep), onward, inside,
    fun _ => onward, same⟩

theorem Follows.eat_other {after : Bool → Nat → Parser α}
    (other : symbols[position]? ≠ some symbol)
    (rest : Follows symbols least enough (after false) position read) :
    Follows symbols least enough (fun depth => eat symbols symbol >>= fun eaten => after eaten depth)
      position read := by
  obtain ⟨outcome, stop, ends, moves⟩ := rest
  have stayed := ends_eat symbols symbol position
  simp only [other, if_false, decide_false] at stayed
  exact ⟨outcome, stop, fun depth deep => stayed.bind_ok (ends depth deep), moves⟩

end

theorem getElem?_of_drop {rest : List Symbol} (left : symbols.drop position = symbol :: rest) :
    symbols[position]? = some symbol ∧ symbols.drop (position + 1) = rest := by
  refine ⟨?_, ?_⟩
  · rw [← List.head?_drop, left, List.head?_cons]
  · rw [← List.tail_drop, left, List.tail_cons]

theorem drop_of_getElem? (found : symbols[position]? = some symbol) :
    symbols.drop position = symbol :: symbols.drop (position + 1) ∧
      position + 1 ≤ symbols.length := by
  obtain ⟨within, rfl⟩ := List.getElem?_eq_some_iff.mp found
  exact ⟨List.drop_eq_getElem_cons within, within⟩

/-! ### The parsers of types -/

theorem follows_brackets (inside : position ≤ symbols.length) {enough : Nat}
    (deep : symbols.length - position < enough) (type : TypeName) :
    Follows symbols 0 enough (fun depth => brackets symbols depth type) position
      (Scope.readBrackets type (symbols.drop position)) := by
  generalize same : symbols.drop position = left
  fun_induction Scope.readBrackets type left generalizing position enough with
  | case1 type rest ih =>
    obtain ⟨opened, behind⟩ := getElem?_of_drop same
    obtain ⟨closed, behind⟩ := getElem?_of_drop behind
    have within := (drop_of_getElem? closed).2
    obtain ⟨enough, rfl⟩ := Scope.exists_fuel deep
    have shallower : symbols.length - (position + 1 + 1) < enough := by omega
    have later := ih within shallower behind
    refine .called ?_
    simp only [brackets]
    exact .eat_found opened (.eat_found closed later)
  | case2 type rest unclosed =>
    obtain ⟨opened, behind⟩ := getElem?_of_drop same
    have other : symbols[position + 1]? ≠ some .closeBracket := by
      rw [← List.head?_drop, behind]
      intro closed
      obtain ⟨rest, rfl⟩ := List.head?_eq_some_iff.mp closed
      exact unclosed rest rfl
    obtain ⟨enough, rfl⟩ := Scope.exists_fuel deep
    refine .called ?_
    simp only [brackets]
    exact .eat_found opened (.eat_other other (.throw (drop_of_getElem? opened).2 _))
  | case3 type left _ unopened =>
    have other : symbols[position]? ≠ some .openBracket := by
      rw [← List.head?_drop, same]
      intro opened
      obtain ⟨rest, rfl⟩ := List.head?_eq_some_iff.mp opened
      exact unopened rest rfl
    obtain ⟨enough, rfl⟩ := Scope.exists_fuel deep
    refine .called ?_
    simp only [brackets]
    exact same ▸ .eat_other other (.pure inside type)

theorem follows_named (scope : Scope) (inside : position ≤ symbols.length) {enough : Nat}
    (deep : symbols.length - position < enough) (name : String) (arguments : List TypeName) :
    Follows symbols 0 enough
      (fun depth => liftExcept (scope.apply name arguments) >>= brackets symbols depth) position
      (scope.apply name arguments >>= fun type =>
        Scope.readBrackets type (symbols.drop position)) :=
  .lift inside _ fun type => follows_brackets inside deep type

theorem Follows.without {least enough : Nat} {parser : Nat → Parser (List TypeName)}
    {read : Except TypeFault (List TypeName × List Symbol)}
    (follows : Follows symbols least enough parser position
      ((fun read => ([] ++ read.1, read.2)) <$> read)) :
    Follows symbols least enough parser position read := by
  have same : (fun read : List TypeName × List Symbol => ([] ++ read.1, read.2)) = id := rfl
  rwa [same, id_map] at follows

-- The symbols left become fewer on every cycle of calls. Only the first argument of a list is parsed
-- from where the list starts.
mutual

theorem follows_type (scope : Scope) (fuel : Nat) {position : Nat}
    (inside : position ≤ symbols.length) (enough : symbols.length - position ≤ fuel) :
    Follows symbols 1 (symbols.length - position + 1) (type scope symbols) position
      (scope.readType fuel (symbols.drop position)) := by
  refine .called ?_
  simp only [type]
  cases found : symbols[position]? with
  | none =>
    have nothing : symbols.drop position = [] :=
      List.drop_eq_nil_of_le (List.getElem?_eq_none_iff.mp found)
    have failed : scope.readType fuel [] = .error .expectedType := by cases fuel <;> rfl
    rw [nothing, failed]
    exact .next_none found (.throw inside _)
  | some symbol =>
    obtain ⟨left, within⟩ := drop_of_getElem? found
    obtain ⟨fuel, rfl⟩ : ∃ less, fuel = less + 1 := ⟨fuel - 1, by omega⟩
    rw [left]
    refine .next_some found ?_
    cases symbol with
    | question =>
      have bound := (follows_wildcard scope fuel within (by omega)).weaken
        (symbols.length - position) (by omega)
      show Follows _ _ _ (fun depth => wildcard scope symbols depth >>= brackets symbols depth) _
        (scope.readWildcard fuel _ >>= fun read => Scope.readBrackets read.1 read.2)
      exact bound.bind fun type stop moved inside => follows_brackets inside (by omega) type
    | name name =>
      by_cases less : symbols[position + 1]? = some .less
      · obtain ⟨generic, within⟩ := drop_of_getElem? less
        have list := (follows_arguments scope fuel within [] (by omega)).without.weaken
          (symbols.length - position) (by omega)
        rw [generic]
        show Follows _ _ _ _ _ (scope.readArguments fuel _ >>= fun read =>
          scope.apply name read.1 >>= fun type => Scope.readBrackets type read.2)
        refine .eat_found less ?_
        exact list.bind fun arguments stop moved inside =>
          follows_named scope inside (by omega) name arguments
      · rw [Scope.readType_name (by rwa [List.head?_drop])]
        exact .eat_other less (follows_named scope within (by omega) name [])
    | _ => exact .throw within _
termination_by (symbols.length - position, 0)

theorem follows_wildcard (scope : Scope) (fuel : Nat) {position : Nat}
    (inside : position ≤ symbols.length) (enough : symbols.length - position ≤ fuel) :
    Follows symbols 0 (symbols.length - position + 1) (wildcard scope symbols) position
      (scope.readWildcard fuel (symbols.drop position)) := by
  refine .called ?_
  simp only [wildcard]
  by_cases above : symbols[position]? = some (.name "extends")
  · obtain ⟨left, within⟩ := drop_of_getElem? above
    obtain ⟨fuel, rfl⟩ : ∃ less, fuel = less + 1 := ⟨fuel - 1, by omega⟩
    have bound := (follows_type scope fuel within (by omega)).weaken
      (symbols.length - position) (by omega)
    rw [left, Scope.readWildcard]
    exact .eat_found above (bound.bind fun type stop _ inside => .pure inside _)
  by_cases below : symbols[position]? = some (.name "super")
  · obtain ⟨left, within⟩ := drop_of_getElem? below
    obtain ⟨fuel, rfl⟩ : ∃ less, fuel = less + 1 := ⟨fuel - 1, by omega⟩
    have bound := (follows_type scope fuel within (by omega)).weaken
      (symbols.length - position) (by omega)
    rw [left, Scope.readWildcard]
    refine .eat_other above (.eat_found below ?_)
    exact bound.bind fun type stop _ inside => .pure inside _
  rw [Scope.readWildcard_bare (by rwa [List.head?_drop]) (by rwa [List.head?_drop])]
  exact .eat_other above (.eat_other below (.pure inside _))
termination_by (symbols.length - position, 0)

theorem follows_arguments (scope : Scope) (fuel : Nat) {position : Nat}
    (inside : position ≤ symbols.length) (before : List TypeName)
    (enough : symbols.length - position < fuel) :
    Follows symbols 1 (symbols.length - position + 2)
      (fun depth => arguments scope symbols depth before) position
      ((fun read => (before ++ read.1, read.2)) <$>
        scope.readArguments fuel (symbols.drop position)) := by
  obtain ⟨fuel, rfl⟩ := Scope.exists_fuel enough
  refine .called ?_
  simp only [arguments]
  rw [Scope.readArguments, map_bind]
  have first := follows_type scope fuel inside (by omega)
  refine first.bind fun type stop moved inside => ?_
  by_cases comma : symbols[stop]? = some .comma
  · obtain ⟨left, within⟩ := drop_of_getElem? comma
    have later := (follows_arguments scope fuel within (before ++ [type]) (by omega)).weaken
      (symbols.length - position + 1) (by omega)
    rw [left]
    refine .eat_found comma ?_
    cases read : scope.readArguments fuel (symbols.drop (stop + 1)) with
    | error fault => simpa [read] using later
    | ok read => simpa [read] using later
  by_cases angle : symbols[stop]? = some .greater
  · obtain ⟨left, within⟩ := drop_of_getElem? angle
    rw [left]
    exact .eat_other comma (.eat_found angle (.pure within _))
  refine .eat_other comma (.eat_other angle ?_)
  cases left : symbols.drop stop with
  | nil => exact .throw inside _
  | cons symbol rest =>
    obtain ⟨found, -⟩ := getElem?_of_drop left
    cases symbol with
    | comma => exact absurd found comma
    | greater => exact absurd found angle
    | _ => exact .throw inside _
termination_by (symbols.length - position, 1)

end

/-- One end of the parser stands beside the reader with any fuel. -/
theorem exists_ends {least enough fuelled : Nat} {parser : Nat → Parser α}
    {reader : Nat → Except TypeFault (α × List Symbol)}
    (follows : ∀ fuel, fuelled ≤ fuel →
      Follows symbols least enough parser position (reader fuel)) :
    ∃ outcome stop, (∀ depth, enough ≤ depth → (parser depth).Ends position outcome stop) ∧
      position ≤ stop ∧ stop ≤ symbols.length ∧ (outcome.isOk → position + least ≤ stop) ∧
      ∀ fuel, fuelled ≤ fuel → reader fuel = (·, symbols.drop stop) <$> outcome := by
  obtain ⟨outcome, stop, ends, onward, inside, taken, -⟩ := follows fuelled (Nat.le_refl _)
  refine ⟨outcome, stop, ends, onward, inside, taken, fun fuel more => ?_⟩
  obtain ⟨other, last, ends', -, -, -, same⟩ := follows fuel more
  obtain ⟨rfl, rfl⟩ := (ends enough (Nat.le_refl _)).unique (ends' enough (Nat.le_refl _))
  exact same

/-- From any position within the symbols the parsers of types, wildcards and arguments come to an
end, if calls may nest deeper than there are symbols left. The end is within the symbols and not
before the position, and behind it if there is a type or a list of arguments. The readers give the
same with fuel for the symbols left. -/
theorem parsers_advance (scope : Scope) (symbols : List Symbol) {position : Nat}
    (inside : position ≤ symbols.length) :
    (∃ outcome stop,
      (∀ depth, symbols.length - position < depth →
        (type scope symbols depth).Ends position outcome stop) ∧
      position ≤ stop ∧ stop ≤ symbols.length ∧ (outcome.isOk → position < stop) ∧
      ∀ fuel, symbols.length - position ≤ fuel →
        scope.readType fuel (symbols.drop position) = (·, symbols.drop stop) <$> outcome) ∧
    (∃ outcome stop,
      (∀ depth, symbols.length - position < depth →
        (wildcard scope symbols depth).Ends position outcome stop) ∧
      position ≤ stop ∧ stop ≤ symbols.length ∧
      ∀ fuel, symbols.length - position ≤ fuel →
        scope.readWildcard fuel (symbols.drop position) = (·, symbols.drop stop) <$> outcome) ∧
    ∃ outcome stop,
      (∀ depth, symbols.length - position + 1 < depth →
        (arguments scope symbols depth []).Ends position outcome stop) ∧
      position ≤ stop ∧ stop ≤ symbols.length ∧ (outcome.isOk → position < stop) ∧
      ∀ fuel, symbols.length - position < fuel →
        scope.readArguments fuel (symbols.drop position) = (·, symbols.drop stop) <$> outcome := by
  have types (fuel : Nat) (enough : symbols.length - position ≤ fuel) :=
    follows_type scope fuel inside enough
  have wildcards (fuel : Nat) (enough : symbols.length - position ≤ fuel) :=
    follows_wildcard scope fuel inside enough
  have lists (fuel : Nat) (enough : symbols.length - position + 1 ≤ fuel) :=
    (follows_arguments scope fuel inside [] enough).without
  obtain ⟨outcome, stop, ends, onward, within, -, same⟩ := exists_ends wildcards
  exact ⟨exists_ends types, ⟨outcome, stop, ends, onward, within, same⟩, exists_ends lists⟩

end

def mapSymbols : List Symbol :=
  [.name "Map", .less, .question, .comma, .name "T", .greater, .greater]

theorem map_arguments_are_parsed :
    2 ≤ mapSymbols.length ∧
    (type { package := "p" } mapSymbols 6).Ends 2 (.ok .wildcard) 3 ∧
    (wildcard { package := "p" } mapSymbols 6).Ends 2 (.ok .wildcard) 2 ∧
    (arguments { package := "p" } mapSymbols 7 []).Ends 2
      (.ok [.wildcard, .typeVariable "T" []]) 6 := by
  have inside : 2 ≤ mapSymbols.length := by decide
  have question : Scope.readType { package := "p" } 5 (mapSymbols.drop 2) =
      .ok (.wildcard, mapSymbols.drop 3) := by decide +kernel
  have nothing : Scope.readWildcard { package := "p" } 5 (mapSymbols.drop 2) =
      .ok (.wildcard, mapSymbols.drop 2) := by decide +kernel
  have list : Scope.readArguments { package := "p" } 6 (mapSymbols.drop 2) =
      .ok ([.wildcard, .typeVariable "T" []], mapSymbols.drop 6) := by decide +kernel
  obtain ⟨⟨_, _, ends, -, within, -, same⟩, ⟨_, _, ends', -, within', same'⟩,
    ⟨_, _, ends'', -, within'', -, same''⟩⟩ := parsers_advance { package := "p" } mapSymbols inside
  refine ⟨inside, ?_, ?_, ?_⟩
  · exact (ends 6 (by decide)).of_read within (by decide)
      (question.symm.trans (same 5 (by decide)))
  · exact (ends' 6 (by decide)).of_read within' (by decide)
      (nothing.symm.trans (same' 5 (by decide)))
  · exact (ends'' 7 (by decide)).of_read within'' (by decide)
      (list.symm.trans (same'' 6 (by decide)))

end Parser

end ClassCompiler
