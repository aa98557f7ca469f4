import ScriptSuite.Proofs.Script.TermParsing

set_option autoImplicit false

namespace ScriptSuite.Script

section

variable {levels need : Nat} {before after kinds : List TokenKind}

theorem parses_allowing_in {α : Type} {accepts : α → Prop} {parser : Parser α}
    (parses : Parses levels need before after accepts parser) :
    Parses levels need before after accepts (allowingIn parser) :=
  ⟨parses.enough, parses.tooFew⟩

def StandsFor (spread : Bool) (value : Term) (one : Spanned Expr) : Prop :=
  ∀ rest values, DenoteAll rest values → DenoteAll (.item spread value rest) (some one :: values)

theorem stands_for_spread (value : Term) (inner one : Spanned Expr) (denotes : Denotes value inner.node)
    (same : one.node = .spread inner) : StandsFor true value one := by
  intro rest values behind
  obtain ⟨node, span⟩ := one
  cases same
  exact .spread span denotes behind

theorem item_leads (spread : Bool) (value : Term) (fits : value.Fits) (kinds : List TokenKind) :
    leading (spreadKinds spread ++ value.render ++ kinds) ≠ .punct .rParen ∧
      leading (spreadKinds spread ++ value.render ++ kinds) ≠ .punct .rBracket ∧
      leading (spreadKinds spread ++ value.render ++ kinds) ≠ .punct .comma := by
  obtain ⟨kind, rest, spelled, leads, -⟩ := render_leads value fits
  obtain ⟨noParen, noBracket, noComma, -⟩ := leads_term_plain kind leads
  rw [spelled]
  cases spread with
  | true => simp [spreadKinds, leading]
  | false => exact ⟨noParen, noBracket, noComma⟩

theorem parses_item (levels : Nat) (spread : Bool) (value : Term) (fits : value.Fits) (reads : value.ReadsAssignment)
    (ends : EndsAt assignmentRank kinds) :
    Parses levels (itemLevels value.rank value.depth) (spreadKinds spread ++ value.render ++ kinds) kinds
      (StandsFor spread value) (spreadOrAssignment (Grammar.ofLevels levels)) := by
  have inner := assignment_deeper (reads kinds ends) levels
  cases spread with
  | true =>
      exact .startOffset fun start => .accept (by simp) (.finish inner fun read denotes =>
        spanned_from_step.weaken fun one same => stands_for_spread value read one denotes same)
  | false =>
      obtain ⟨kind, rest, spelled, leads, -⟩ := render_leads value fits
      have noDots : leading (value.render ++ kinds) ≠ .punct .ellipsis := by
        rw [spelled]
        exact (leads_term_plain kind leads).2.2.2
      exact .startOffset fun start => .refuse noDots (inner.weaken fun one denotes rest values behind =>
        .item denotes behind)

end

namespace Elements

def EachReads : Elements → Prop
  | .nil => True
  | .hole rest => rest.EachReads
  | .item _ value rest => value.Fits ∧ value.ReadsAssignment ∧ rest.EachReads

def Completes {α : Type} (items : Elements) (seen : List α) (wrap : α → Option (Spanned Expr)) (values : List α) : Prop :=
  ∃ read, values = seen.reverse ++ read ∧ DenoteAll items (read.map wrap)

theorem comma_ends (kinds : List TokenKind) : EndsAt assignmentRank (.punct .comma :: kinds) :=
  (by decide : strength (.punct .comma) < assignmentRank)

theorem closing_ends (mark : Punct) (closing : mark = .rParen ∨ mark = .rBracket) (rank : Nat) (positive : 0 < rank)
    (kinds : List TokenKind) : EndsAt rank (.punct mark :: kinds) := by
  show strength (.punct mark) < rank
  rcases closing with rfl | rfl
  · exact positive
  · exact positive

theorem completes_nil {α : Type} (seen : List α) (wrap : α → Option (Spanned Expr)) :
    nil.Completes seen wrap seen.reverse :=
  ⟨[], by simp, .nil⟩

theorem completes_hole {rest : Elements} {seen values : List (Option (Spanned Expr))}
    (behind : rest.Completes (none :: seen) id values) : (hole rest).Completes seen id values := by
  obtain ⟨read, same, denotes⟩ := behind
  exact ⟨none :: read, by simp [same], .hole denotes⟩

theorem completes_item {α : Type} {spread : Bool} {value : Term} {rest : Elements} {seen values : List α}
    {wrap : α → Option (Spanned Expr)} {one : α} {node : Spanned Expr} (wrapped : wrap one = some node)
    (stands : StandsFor spread value node) (behind : rest.Completes (one :: seen) wrap values) :
    (item spread value rest).Completes seen wrap values := by
  obtain ⟨read, same, denotes⟩ := behind
  refine ⟨one :: read, by simp [same], ?_⟩
  rw [List.map_cons, wrapped]
  exact stands rest _ denotes

theorem is_nil_eq {items : Elements} (empty : items.isNil = true) : items = .nil := by
  cases items with
  | nil => rfl
  | _ => cases empty

theorem render_last (spread : Bool) (value : Term) (kinds : List TokenKind) :
    (item spread value nil).render ++ kinds = spreadKinds spread ++ value.render ++ kinds := by
  simp [Elements.render, isNil]

theorem render_more (spread : Bool) (value : Term) (rest : Elements) (more : rest.isNil = false)
    (kinds : List TokenKind) :
    (item spread value rest).render ++ kinds =
      spreadKinds spread ++ value.render ++ .punct .comma :: (rest.render ++ kinds) := by
  simp [Elements.render, more]

section

variable {α : Type} {levels : Nat} {kinds : List TokenKind} {spread : Bool} {value : Term} {g : Grammar}
  (wrap : α → Option (Spanned Expr)) (store : Spanned Expr → α) (stored : ∀ one, wrap (store one) = some one)
include stored

theorem parses_last_item {a : Nat} {before : List TokenKind} (seen : List α)
    (ends : leading kinds ≠ .punct .comma)
    (reads : Parses levels a before kinds (StandsFor spread value) (spreadOrAssignment g)) :
    Parses levels a before kinds
      (fun step => ∃ values, step = .done values ∧ (item spread value nil).Completes seen wrap values)
      (do
        let one ← spreadOrAssignment g
        if ← acceptPunct .comma then return .again (store one :: seen)
        return (.done (store one :: seen).reverse : Round (List α) (List α))) :=
  .finish reads fun one stands => .refuse ends
    (.pure ⟨_, rfl, completes_item (stored one) stands (completes_nil _ _)⟩)

theorem parses_item_before {a : Nat} {before : List TokenKind} (rest : Elements) (seen : List α)
    (reads : Parses levels a before (.punct .comma :: kinds) (StandsFor spread value) (spreadOrAssignment g)) :
    Parses levels a before kinds
      (fun step => ∃ next, step = .again next ∧ ∃ one, next = one :: seen ∧ ∀ values,
        rest.Completes next wrap values → (item spread value rest).Completes seen wrap values)
      (do
        let one ← spreadOrAssignment g
        if ← acceptPunct .comma then return .again (store one :: seen)
        return (.done (store one :: seen).reverse : Round (List α) (List α))) :=
  .finish reads fun one stands => .accept (by simp) (.pure ⟨_, rfl, store one, rfl, fun _ behind =>
    completes_item (stored one) stands behind⟩)

end

theorem item_shorter (spread : Bool) (value : Term) (kinds : List TokenKind) :
    kinds.length < (spreadKinds spread ++ value.render ++ .punct .comma :: kinds).length := by
  simp only [List.length_append, List.length_cons]
  omega

theorem reads_holed : ∀ (items : Elements), items.EachReads → ∀ levels kinds seen,
    Repeats levels items.depth (items.render ++ .punct .rBracket :: kinds) (.punct .rBracket :: kinds)
      (items.Completes seen id) (holedRound .rBracket (spreadOrAssignment (Grammar.ofLevels levels))) seen
  | .nil, _, levels, kinds, seen => .done (.checked (.pure ⟨_, rfl, completes_nil seen id⟩))
  | .hole rest, each, levels, kinds, seen => by
      have hole : Parses levels 0 (.punct .comma :: (rest.render ++ .punct .rBracket :: kinds))
          (rest.render ++ .punct .rBracket :: kinds) (fun step => ∃ next, step = .again next ∧ next = none :: seen)
          (holedRound .rBracket (spreadOrAssignment (Grammar.ofLevels levels)) seen) :=
        .unchecked (by simp [leading]) (.accept (by simp) (.pure ⟨_, rfl, rfl⟩))
      have whole := Repeats.again (Nat.lt_succ_self _) hole fun next same =>
        same ▸ (reads_holed rest each levels kinds (none :: seen)).weaken fun values => completes_hole
      rwa [Nat.zero_max] at whole
  | .item spread value rest, each, levels, kinds, seen => by
      obtain ⟨fits, reads, others⟩ := each
      cases last : rest.isNil with
      | true =>
          obtain rfl := is_nil_eq last
          obtain ⟨-, noBracket, noComma⟩ := item_leads spread value fits (.punct .rBracket :: kinds)
          have only := parses_item levels spread value fits reads
            (closing_ends .rBracket (.inr rfl) _ (by decide) kinds)
          have depth : (item spread value nil).depth = itemLevels value.rank value.depth := Nat.max_zero _
          rw [render_last, depth]
          exact .done (.unchecked noBracket (.refuse noComma
            (parses_last_item id some (fun _ => rfl) seen (by simp [leading]) only)))
      | false =>
          obtain ⟨-, noBracket, noComma⟩ :=
            item_leads spread value fits (.punct .comma :: (rest.render ++ .punct .rBracket :: kinds))
          have first := parses_item levels spread value fits reads
            (comma_ends (rest.render ++ .punct .rBracket :: kinds))
          rw [render_more spread value rest last]
          refine .again (item_shorter spread value _)
            (.unchecked noBracket (.refuse noComma (parses_item_before id some (fun _ => rfl) rest seen first))) ?_
          rintro next ⟨one, rfl, completes⟩
          exact (reads_holed rest others levels kinds (one :: seen)).weaken completes

theorem reads_args : ∀ (items : Elements), items.EachReads → items.hasHole = false → ∀ levels kinds seen,
    Repeats levels items.depth (items.render ++ .punct .rParen :: kinds) (.punct .rParen :: kinds)
      (items.Completes seen some) (commaRound .rParen (spreadOrAssignment (Grammar.ofLevels levels))) seen
  | .nil, _, _, levels, kinds, seen => .done (.checked (.pure ⟨_, rfl, completes_nil seen some⟩))
  | .item spread value rest, each, full, levels, kinds, seen => by
      obtain ⟨fits, reads, others⟩ := each
      cases last : rest.isNil with
      | true =>
          obtain rfl := is_nil_eq last
          obtain ⟨noParen, -, -⟩ := item_leads spread value fits (.punct .rParen :: kinds)
          have only := parses_item levels spread value fits reads
            (closing_ends .rParen (.inl rfl) _ (by decide) kinds)
          have depth : (item spread value nil).depth = itemLevels value.rank value.depth := Nat.max_zero _
          rw [render_last, depth]
          exact .done (.unchecked noParen (parses_last_item some id (fun _ => rfl) seen (by simp [leading]) only))
      | false =>
          obtain ⟨noParen, -, -⟩ :=
            item_leads spread value fits (.punct .comma :: (rest.render ++ .punct .rParen :: kinds))
          have first := parses_item levels spread value fits reads
            (comma_ends (rest.render ++ .punct .rParen :: kinds))
          rw [render_more spread value rest last]
          refine .again (item_shorter spread value _)
            (.unchecked noParen (parses_item_before some id (fun _ => rfl) rest seen first)) ?_
          rintro next ⟨one, rfl, completes⟩
          exact (reads_args rest others full levels kinds (one :: seen)).weaken completes

theorem sequence_ends {kinds : List TokenKind} (ends : EndsAt sequenceRank kinds) (levels : Nat) (g : Grammar)
    (seen : List (Spanned Expr)) :
    Repeats levels 0 kinds kinds (nil.Completes seen some) (sequenceRound g) seen :=
  .done (.refuse (ends_sequences ends) (.pure ⟨_, rfl, completes_nil seen some⟩))

theorem parses_other {value : Term} {kinds : List TokenKind} (reads : value.ReadsAssignment)
    (ends : EndsAt assignmentRank kinds) (levels : Nat) (rest : Elements) (seen : List (Spanned Expr)) :
    Parses levels (itemLevels value.rank value.depth) (.punct .comma :: (value.render ++ kinds)) kinds
      (fun step => ∃ next, step = .again next ∧ ∃ one, next = one :: seen ∧ ∀ values,
        rest.Completes next some values → (item false value rest).Completes seen some values)
      (sequenceRound (Grammar.ofLevels levels) seen) :=
  .accept (by simp) (.finish (assignment_deeper (reads kinds ends) levels) fun one denotes =>
    .pure ⟨_, rfl, one, rfl, fun _ behind => completes_item rfl (fun _ _ others => .item denotes others) behind⟩)

theorem reads_others : ∀ (items : Elements), items.EachReads → items.hasHole = false → items.hasSpread = false →
    items.isNil = false → ∀ kinds, EndsAt sequenceRank kinds → ∀ levels seen,
    Repeats levels items.depth (.punct .comma :: (items.render ++ kinds)) kinds (items.Completes seen some)
      (sequenceRound (Grammar.ofLevels levels)) seen
  | .item true value rest, _, _, plain, _, kinds, ends, levels, seen => by cases plain
  | .item false value rest, each, full, plain, _, kinds, ends, levels, seen => by
      obtain ⟨fits, reads, others⟩ := each
      cases last : rest.isNil with
      | true =>
          obtain rfl := is_nil_eq last
          have only := parses_other reads (ends.mono (by decide)) levels nil seen
          rw [render_last]
          refine .again ?_ only ?_
          · simp only [List.length_append, List.length_cons]
            omega
          · rintro next ⟨one, rfl, completes⟩
            exact (sequence_ends ends levels _ (one :: seen)).weaken completes
      | false =>
          have first := parses_other reads (comma_ends (rest.render ++ kinds)) levels rest seen
          rw [render_more false value rest last]
          refine .again ?_ first ?_
          · simp only [List.length_append, List.length_cons]
            omega
          · rintro next ⟨one, rfl, completes⟩
            exact (reads_others rest others full plain last kinds ends levels (one :: seen)).weaken completes

end Elements

end ScriptSuite.Script
