import ScriptSuite.Proofs.Script.Outline
import ScriptSuite.Proofs.Script.RoundTrip

/-!
How many statements and expressions stand inside one another. The levels of the grammar bound them, classes apart that
other classes inherit from: the heritage of a class is read at the level of the class.
-/
set_option autoImplicit false

namespace ScriptSuite.Script

theorem counts_le_weight (visit : Visit) :
    (if visit.counts then 1 else 0) ≤ visit.weight + if visit.isInheritedClass then 1 else 0 := by
  unfold Visit.weight
  cases visit.counts <;> cases visit.isInheritedClass <;> decide

-- Each step down a path leaves less for what is below it.
theorem path_counts_le {text : List Char} {bound : Nat} {visit : Visit} {path : List Visit}
    (onward : Visit.Path visit path) (sound : Sound text bound visit) :
    path.countP Visit.counts ≤ bound + path.countP Visit.isInheritedClass := by
  induction onward generalizing bound with
  | last visit =>
      cases sound with
      | node deeper placed covered ordered weighs below =>
          have here := counts_le_weight visit
          simp only [List.countP_cons, List.countP_nil]
          omega
  | @step visit next path inside onward ih =>
      cases sound with
      | node deeper placed covered ordered weighs below =>
          have here := counts_le_weight visit
          have rest := ih (below next inside)
          simp only [List.countP_cons]
          omega

def spaced (kinds : List TokenKind) : List Piece :=
  kinds.map fun kind => ⟨[' '], kind.spelledWith '"', kind⟩

structure TokenKind.Plain (kind : TokenKind) : Prop where
  spellable : kind.Spellable
  guarded : kind.guarded = true
  fits : ∀ previous, kind.fitsBehind previous = true

theorem spaced_rendered (previous : Option TokenKind) (kinds : List TokenKind) (plain : ∀ kind ∈ kinds, kind.Plain) :
    Rendered previous (spaced kinds) [] := by
  induction kinds generalizing previous with
  | nil => exact ⟨.none, fun _ => by simp [EndsWord]⟩
  | cons kind kinds ih =>
      have first := plain kind List.mem_cons_self
      exact ⟨first.spellable, ⟨'"', .inl rfl, rfl⟩, first.fits previous, .blank (by decide) .none, fun _ => ⟨' ', rfl, .inl rfl⟩,
        ih (some kind) fun other inside => plain other (List.mem_cons_of_mem kind inside)⟩

theorem lex_spaced (kinds : List TokenKind) (plain : ∀ kind ∈ kinds, kind.Plain) :
    ∃ tokens, lex (String.ofList (spell (spaced kinds))) = .ok tokens ∧ tokens.map (·.kind) = kinds ++ [.endOfFile] ∧
      ∀ token ∈ tokens, token.newlineBefore = false := by
  have guarded : ∀ piece ∈ spaced kinds, piece.kind.guarded = true := by
    intro piece inside
    obtain ⟨kind, among, rfl⟩ := List.mem_map.mp inside
    exact (plain kind among).guarded
  have lexed := lex_pieces (spaced kinds) [] (spaced_rendered none kinds plain) guarded
  have flags := place_flags 0 (spaced kinds)
  rw [List.append_nil] at lexed
  refine ⟨_, lexed, ?_, ?_⟩
  · rw [List.map_append, place_kinds, spaced, List.map_map]
    exact congrArg (· ++ [TokenKind.endOfFile]) (List.map_id kinds)
  · intro token inside
    rcases List.mem_append.mp inside with among | last
    · have flag : token.newlineBefore ∈ (place 0 (spaced kinds)).map (·.newlineBefore) := List.mem_map_of_mem among
      rw [flags] at flag
      obtain ⟨piece, member, same⟩ := List.mem_map.mp flag
      obtain ⟨kind, -, rfl⟩ := List.mem_map.mp member
      exact same.symm
    · cases List.mem_singleton.mp last
      rfl

-- `class extends` as often as is asked for, around `null`.
def heritageKinds : Nat → List TokenKind
  | 0 => [.keyword .nullWord]
  | depth + 1 =>
      .keyword .classWord :: .keyword .extendsWord :: (heritageKinds depth ++ [.punct .lBrace, .punct .rBrace])

theorem heritage_length (depth : Nat) : depth < (heritageKinds depth).length := by
  induction depth with
  | zero => decide
  | succ depth ih =>
      simp only [heritageKinds, List.length_cons, List.length_append, List.length_nil]
      omega

def Inherits (depth : Nat) (value : Spanned Expr) : Prop :=
  ∃ path, Visit.Path ⟨.expr value, true⟩ path ∧ depth ≤ path.countP Visit.counts

section

variable {levels need : Nat} {before after kinds : List TokenKind} {g : Grammar}

theorem parses_call_member_from {accepts : Spanned Expr → Prop}
    (parses : ∀ fuel : List Token, before.length ≤ fuel.length →
      Parses levels need before after accepts (callMemberFrom g fuel)) :
    Parses levels need before after accepts (callMember g) := by
  have fuel : ∀ state, Ahead before state → before.length ≤ state.rest.length := fun state ahead =>
    Nat.le_of_eq (by rw [← ahead.spelled, List.length_map])
  exact ⟨fun enough state ahead => (parses state.rest (fuel state ahead)).enough enough state ahead,
    fun few state ahead => (parses state.rest (fuel state ahead)).tooFew few state ahead⟩

theorem parses_declared_name (name : String) {required : Bool} {wanted : Expectation} :
    Parses levels 0 (.identifier name :: kinds) kinds (fun _ => True) (declaredName required wanted) := by
  have word : Parses levels 0 (.identifier name :: kinds) kinds (fun _ => True) identifier := by
    refine .peek fun token same _ => ?_
    have here : token.kind = .identifier name := same
    rw [here]
    exact .advance (by simp) fun _ => .pure trivial
  refine .peek fun token same _ => ?_
  have here : token.kind = .identifier name := same
  rw [here]
  exact .finish word fun _ _ => .pure trivial

theorem parses_bare_class {heritage : Parser (Spanned Expr)} {holds : Spanned Expr → Prop} {name inner : List TokenKind}
    (requireName : Bool)
    (declared : Parses levels 0 (name ++ .keyword .extendsWord :: (inner ++ .punct .lBrace :: .punct .rBrace :: kinds))
      (.keyword .extendsWord :: (inner ++ .punct .lBrace :: .punct .rBrace :: kinds)) (fun _ => True)
      (declaredName requireName .className))
    (parent : Parses levels 0 (inner ++ .punct .lBrace :: .punct .rBrace :: kinds)
      (.punct .lBrace :: .punct .rBrace :: kinds) holds heritage) :
    Parses levels 0
      (.keyword .classWord :: (name ++ .keyword .extendsWord :: (inner ++ .punct .lBrace :: .punct .rBrace :: kinds))) kinds
      (fun decl => ∃ parent, decl.heritage = some parent ∧ holds parent) (classFrom g heritage requireName) := by
  have body : ∀ brace : Span, Parses levels 0 (.punct .rBrace :: kinds) kinds (fun _ => True)
      (repeatRounds (classMemberRound g brace) []) :=
    fun brace => Repeats.parses (.done (.accept (by simp) (.pure ⟨_, rfl, trivial⟩)))
  refine .expect (by simp) fun _ => .step declared fun name _ => .accept (by simp) ?_
  refine .step parent fun value held => .expect (by simp) fun brace => .step (body brace.span) fun members _ => ?_
  exact .pure ⟨value, rfl, held⟩

theorem brace_ends_chain : EndsAt callRank (TokenKind.punct .lBrace :: kinds) :=
  (by decide : strength (.punct .lBrace) < callRank)

theorem parses_null {heritage : Parser (Spanned Expr)} :
    Parses levels 0 (.keyword .nullWord :: kinds) kinds (Inherits 0) (primary g heritage) := by
  refine .peek fun token same _ => ?_
  have here : token.kind = .keyword .nullWord := same
  have word : Parses levels 0 (.keyword .nullWord :: kinds) kinds (fun _ => True) (consuming (.literal .null)) :=
    .advance (by simp) fun _ => .pure trivial
  unfold primaryExpr
  rw [here]
  exact .step word fun node _ => spanned_from_step.weaken fun value _ => ⟨_, .last _, Nat.zero_le _⟩

theorem parses_inheriting_class {depth : Nat} {inner : List TokenKind} {heritage : Parser (Spanned Expr)}
    (parent : Parses levels 0 (inner ++ .punct .lBrace :: .punct .rBrace :: kinds)
      (.punct .lBrace :: .punct .rBrace :: kinds) (Inherits depth) heritage) :
    Parses levels 0
      (.keyword .classWord :: .keyword .extendsWord :: (inner ++ .punct .lBrace :: .punct .rBrace :: kinds)) kinds
      (Inherits (depth + 1)) (primary g heritage) := by
  have anonymous : Parses levels 0
      ([] ++ .keyword .extendsWord :: (inner ++ .punct .lBrace :: .punct .rBrace :: kinds))
      (.keyword .extendsWord :: (inner ++ .punct .lBrace :: .punct .rBrace :: kinds)) (fun _ => True)
      (declaredName false .className) := by
    refine .peek fun token same _ => ?_
    have here : token.kind = .keyword .extendsWord := same
    rw [here]
    exact .pure trivial
  have read : Parses levels 0
      (.keyword .classWord :: .keyword .extendsWord :: (inner ++ .punct .lBrace :: .punct .rBrace :: kinds)) kinds
      (fun node => ∃ decl, node = .classExpr decl ∧ ∃ parent, decl.heritage = some parent ∧ Inherits depth parent) (do
        return Expr.classExpr (← classFrom g heritage false)) :=
    .step (parses_bare_class false anonymous parent) fun decl found => .pure ⟨decl, rfl, found⟩
  refine .peek fun token same _ => ?_
  have here : token.kind = .keyword .classWord := same
  unfold primaryExpr
  rw [here]
  refine .step read fun node found => spanned_from_step.weaken fun value same => ?_
  obtain ⟨decl, rfl, lead, heritage, path, onward, count⟩ := found
  obtain ⟨expr, span⟩ := value
  cases same
  have below : (⟨.expr lead, true⟩ : Visit) ∈ Visit.visits ⟨.expr ⟨.classExpr decl, span⟩, true⟩ := by
    simp [Visit.visits, Node.head?, Expr.head?, heritage]
  refine ⟨_, .step below onward, ?_⟩
  rw [List.countP_cons]
  simpa [Visit.counts, Node.counts] using count

-- Every class reads its heritage with the levels it has itself.
theorem parses_heritage (depth : Nat) (fuel : List Token) (enough : depth < fuel.length) (kinds : List TokenKind) :
    Parses levels 0 (heritageKinds depth ++ .punct .lBrace :: kinds) (.punct .lBrace :: kinds) (Inherits depth)
      (callMemberFrom g fuel) := by
  induction depth generalizing fuel kinds with
  | zero =>
      cases fuel with
      | nil => exact absurd enough (Nat.not_lt_zero _)
      | cons token fuel =>
          exact .startOffset fun start => .unchecked (by simp [heritageKinds, leading]) (.step parses_null fun head fine =>
            (chain_ends start head brace_ends_chain fine).parses)
  | succ depth ih =>
      cases fuel with
      | nil => exact absurd enough (Nat.not_lt_zero _)
      | cons token fuel =>
          have inner := ih fuel (Nat.lt_of_succ_lt_succ enough) (.punct .rBrace :: .punct .lBrace :: kinds)
          have spelled : heritageKinds (depth + 1) ++ .punct .lBrace :: kinds = .keyword .classWord ::
              .keyword .extendsWord :: (heritageKinds depth ++ .punct .lBrace :: .punct .rBrace :: .punct .lBrace :: kinds) := by
            simp [heritageKinds]
          rw [spelled]
          exact .startOffset fun start => .unchecked (by simp [leading]) (.step (parses_inheriting_class inner)
            fun head fine => (chain_ends start head brace_ends_chain fine).parses)

end

def inheritingKinds (depth : Nat) : List TokenKind :=
  .keyword .classWord :: .identifier "A" :: .keyword .extendsWord ::
    (heritageKinds depth ++ [.punct .lBrace, .punct .rBrace])

def heritageWords : List TokenKind :=
  [.keyword .classWord, .identifier "A", .keyword .extendsWord, .keyword .nullWord, .punct .lBrace, .punct .rBrace]

theorem heritage_words (depth : Nat) : ∀ kind ∈ heritageKinds depth, kind ∈ heritageWords := by
  induction depth with
  | zero => decide
  | succ depth ih =>
      intro kind inside
      simp only [heritageKinds, List.mem_cons, List.mem_append, List.not_mem_nil, or_false] at inside
      rcases inside with rfl | rfl | among | rfl | rfl
      · decide
      · decide
      · exact ih kind among
      · decide
      · decide

theorem inheriting_words (depth : Nat) : ∀ kind ∈ inheritingKinds depth, kind ∈ heritageWords := by
  intro kind inside
  simp only [inheritingKinds, List.mem_cons, List.mem_append, List.not_mem_nil, or_false] at inside
  rcases inside with rfl | rfl | rfl | among | rfl | rfl
  · decide
  · decide
  · decide
  · exact heritage_words depth kind among
  · decide
  · decide

theorem inheriting_plain (depth : Nat) : ∀ kind ∈ inheritingKinds depth, kind.Plain := by
  intro kind inside
  have word := inheriting_words depth kind inside
  simp only [heritageWords, List.mem_cons, List.not_mem_nil, or_false] at word
  have name : IsName "A".toList ∧ Keyword.ofName? "A" = none := by decide +kernel
  rcases word with rfl | rfl | rfl | rfl | rfl | rfl
  · exact ⟨trivial, rfl, fun _ => rfl⟩
  · exact ⟨name, rfl, fun _ => rfl⟩
  · exact ⟨trivial, rfl, fun _ => rfl⟩
  · exact ⟨trivial, rfl, fun _ => rfl⟩
  · exact ⟨trivial, rfl, fun _ => rfl⟩
  · exact ⟨trivial, rfl, fun _ => rfl⟩

def Statement.Inheriting (depth : Nat) (value : Spanned Statement) : Prop :=
  ∃ path, Visit.Path ⟨.statement value, false⟩ path ∧ depth < path.countP Visit.counts

theorem parses_inheriting (depth levels : Nat) :
    Parses levels 0 (inheritingKinds depth ++ [.endOfFile]) [.endOfFile] (Statement.Inheriting depth)
      (statementBody (Grammar.ofLevels levels)) := by
  have spelled : inheritingKinds depth ++ [.endOfFile] = .keyword .classWord :: ([.identifier "A"] ++
      .keyword .extendsWord :: (heritageKinds depth ++ .punct .lBrace :: .punct .rBrace :: [.endOfFile])) := by
    simp [inheritingKinds]
  have name : Parses levels 0
      ([.identifier "A"] ++ .keyword .extendsWord :: (heritageKinds depth ++ .punct .lBrace :: .punct .rBrace :: [.endOfFile]))
      (.keyword .extendsWord :: (heritageKinds depth ++ .punct .lBrace :: .punct .rBrace :: [.endOfFile])) (fun _ => True)
      (declaredName true .className) := parses_declared_name "A"
  have parent : Parses levels 0 (heritageKinds depth ++ .punct .lBrace :: .punct .rBrace :: [.endOfFile])
      (.punct .lBrace :: .punct .rBrace :: [.endOfFile]) (Inherits depth) (callMember (Grammar.ofLevels levels)) := by
    refine parses_call_member_from fun fuel enough => parses_heritage depth fuel ?_ _
    have long := heritage_length depth
    simp only [List.length_append, List.length_cons] at enough
    omega
  have read : Parses levels 0
      (.keyword .classWord :: ([.identifier "A"] ++
        .keyword .extendsWord :: (heritageKinds depth ++ .punct .lBrace :: .punct .rBrace :: [.endOfFile])))
      [.endOfFile] (fun node => ∃ decl, node = .classDecl decl ∧ ∃ parent, decl.heritage = some parent ∧ Inherits depth parent)
      (do return Statement.classDecl (← classFrom (Grammar.ofLevels levels) (callMember (Grammar.ofLevels levels)) true)) :=
    .step (parses_bare_class true name parent) fun decl found => .pure ⟨decl, rfl, found⟩
  rw [spelled]
  refine .peek fun token same _ => ?_
  have here : token.kind = .keyword .classWord := same
  rw [here, if_neg (by simp)]
  refine .step read fun node found => spanned_from_step.weaken fun value same => ?_
  obtain ⟨decl, rfl, lead, heritage, path, onward, count⟩ := found
  obtain ⟨statement, span⟩ := value
  cases same
  have below : (⟨.expr lead, true⟩ : Visit) ∈ Visit.visits ⟨.statement ⟨.classDecl decl, span⟩, false⟩ := by
    simp [Visit.visits, Node.head?, Statement.head?, Node.isClass, heritage]
  refine ⟨_, .step below onward, ?_⟩
  rw [List.countP_cons]
  simpa [Visit.counts, Node.counts] using Nat.lt_succ_of_le count

def inheritingSource (depth : Nat) : String :=
  String.ofList (spell (spaced (inheritingKinds depth)))

/-- Heritages nest as deep as they are written, whatever the levels of the grammar are. -/
theorem heritage_nests (depth : Nat) :
    ∃ program path, parseSource (inheritingSource depth) = .ok program ∧ program.Path path ∧
      depth < path.countP Visit.counts := by
  obtain ⟨tokens, lexed, kinds, oneLine⟩ := lex_spaced (inheritingKinds depth) (inheriting_plain depth)
  have noArrow : ∀ token ∈ tokens, token.kind ≠ .punct .arrow := by
    intro token inside same
    have found : TokenKind.punct .arrow ∈ tokens.map (·.kind) := same ▸ List.mem_map_of_mem inside
    rw [kinds] at found
    rcases List.mem_append.mp found with among | last
    · exact absurd (inheriting_words depth _ among) (by decide)
    · simp at last
  have ahead : Ahead (inheritingKinds depth ++ [.endOfFile]) (State.ofTokens tokens) :=
    ⟨kinds, fun token inside => ⟨oneLine token inside, noArrow token inside⟩, rfl⟩
  obtain ⟨body, final, result, behind, statement, rfl, path, down, count⟩ :=
    (parses_single_statement (by simp [inheritingKinds, leading]) (by simp [inheritingKinds])
      (parses_inheriting depth (maxNesting - 1))).enough (Nat.zero_le _) _ ahead
  refine ⟨⟨[statement], final.recovered⟩, path, ?_, ⟨statement, List.mem_singleton.mpr rfl, down⟩, count⟩
  have run : parse tokens = .ok ⟨[statement], final.recovered⟩ := by
    unfold parse
    rw [result]
  have fragment : lexFragment (inheritingSource depth) 0 = .ok tokens := lexed
  unfold parseSource parseFragment
  rw [fragment]
  show Except.mapError _ (parse tokens) = _
  rw [run]
  rfl

/-- Along no way down a parsed script stand more than `2 * maxNesting` statements and expressions that nest, besides the
classes that other classes inherit from. -/
theorem nesting_le (source : String) (program : Program) (parsed : parseSource source = .ok program) (path : List Visit)
    (down : program.Path path) :
    path.countP Visit.counts ≤ 2 * maxNesting + path.countP Visit.isInheritedClass := by
  obtain ⟨statement, inside, onward⟩ := down
  obtain ⟨stop, strip⟩ := program_laid source program parsed
  have counted := path_counts_le onward (strip.sound _ (List.mem_map_of_mem inside))
  have enough : reach (maxNesting + 1) ≤ 2 * maxNesting := by decide
  omega

theorem nested_heritage_nesting_le :
    ∃ program path, parseSource (inheritingSource 3) = .ok program ∧ program.Path path ∧ 3 < path.countP Visit.counts ∧
      path.countP Visit.counts ≤ 2 * maxNesting + path.countP Visit.isInheritedClass := by
  obtain ⟨program, path, parsed, down, count⟩ := heritage_nests 3
  exact ⟨program, path, parsed, down, count, nesting_le (inheritingSource 3) program parsed path down⟩

/-- The classes that other classes inherit from make a way down as long as one likes. -/
theorem long_heritage_exceeds_nesting :
    ∃ program path, parseSource (inheritingSource (2 * maxNesting)) = .ok program ∧ program.Path path ∧
      2 * maxNesting < path.countP Visit.counts :=
  heritage_nests (2 * maxNesting)

end ScriptSuite.Script
