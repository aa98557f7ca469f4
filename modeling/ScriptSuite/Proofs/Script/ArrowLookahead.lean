import ScriptSuite.Proofs.Script.Remainder

/-!
Looking ahead for an arrow from a parenthesis. One counter serves the brackets of all kinds. Well-nested tokens leave it
as it was, so that the scan ends at the partner of the parenthesis and shows nothing but the token behind it.
-/
set_option autoImplicit false

namespace ScriptSuite.Script

-- A parenthesis that may open a list of parameters, bare or behind an `async` on its line.
inductive OpensParams : List Token → Prop where
  | bare (paren : Token) (opens : paren.kind = .punct .lParen) : OpensParams [paren]
  | async (word paren : Token) (isAsync : word.kind = .identifier "async") (opens : paren.kind = .punct .lParen)
      (sameLine : paren.newlineBefore = false) : OpensParams [word, paren]

-- Of `depth` brackets that are open before the tokens, one at least stays open all along them, whatever their kinds.
def StaysOpen (depth : Nat) (tokens : List Token) : Prop :=
  ∀ front, front <+: tokens → front.countP (isClosing ·.kind) < depth + front.countP (isOpening ·.kind)

theorem opening_unclosing (kind : TokenKind) (opens : isOpening kind = true) : isClosing kind = false := by
  cases kind with
  | punct mark => cases mark <;> first | rfl | cases opens
  | _ => rfl

theorem well_nested_closing (awaited : List Punct) (tokens : List Token) (nested : wellNested awaited tokens = true) :
    closing awaited.length tokens = true := by
  induction tokens generalizing awaited with
  | nil => simpa [wellNested, closing] using nested
  | cons token rest ih =>
      have opens := is_opening_closer token.kind
      rw [closing]
      rcases well_nested_cons nested with ⟨mark, opened, inner⟩ | ⟨opened, ⟨mark, outer, rfl, closes, _, inner⟩ | ⟨plain, inner⟩⟩
      · rw [if_pos (by rw [opens, opened, Option.isSome_some])]
        exact ih (mark :: awaited) inner
      · rw [if_neg (by simp [opens, opened]), if_pos closes, Bool.and_eq_true]
        exact ⟨rfl, ih outer inner⟩
      · rw [if_neg (by simp [opens, opened]), if_neg (by simp [plain])]
        exact ih awaited inner

theorem arrow_after_closing_behind (depth outer : Nat) (inner rest : List Token) (positive : 1 ≤ outer)
    (closed : closing depth inner = true) (present : ∀ token ∈ inner, token.kind ≠ .endOfFile) :
    arrowAfterClosing (depth + outer) (inner ++ rest) = arrowAfterClosing outer rest := by
  induction inner generalizing depth with
  | nil =>
      have none : depth = 0 := by simpa [closing] using closed
      rw [none, Nat.zero_add, List.nil_append]
  | cons token inner ih =>
      have further := fun other inside => present other (List.mem_cons_of_mem token inside)
      rw [List.cons_append, arrowAfterClosing]
      rcases closing_cons closed with ⟨opens, deeper⟩ | ⟨opens, ⟨closes, left, rfl, shallower⟩ | ⟨closes, same⟩⟩
      · rw [if_pos opens, Nat.add_right_comm]
        exact ih (depth + 1) deeper further
      · rw [if_neg opens, if_pos closes, if_neg (by omega), show left + 1 + outer - 1 = left + outer by omega]
        exact ih left shallower further
      · rw [if_neg opens, if_neg closes, if_neg (present token List.mem_cons_self)]
        exact ih depth same further

theorem StaysOpen.further {depth inner : Nat} {token : Token} {rest : List Token} (stays : StaysOpen depth (token :: rest))
    (level : depth + [token].countP (isOpening ·.kind) = inner + [token].countP (isClosing ·.kind)) :
    StaysOpen inner rest := by
  intro front within
  have whole := stays (token :: front) (List.cons_prefix_cons.mpr ⟨rfl, within⟩)
  rw [← List.singleton_append, List.countP_append, List.countP_append] at whole
  omega

theorem no_arrow_before_end (depth : Nat) (inner more : List Token) (ended : Token) (stays : StaysOpen depth inner)
    (isEnd : ended.kind = .endOfFile) : arrowAfterClosing depth (inner ++ ended :: more) = false := by
  induction inner generalizing depth with
  | nil => simp [arrowAfterClosing, isEnd, isOpening, isClosing]
  | cons token inner ih =>
      rw [List.cons_append, arrowAfterClosing]
      by_cases opens : isOpening token.kind = true
      · have unclosing := opening_unclosing token.kind opens
        rw [if_pos opens]
        exact ih (depth + 1) (stays.further (by simp [opens, unclosing]))
      · rw [if_neg opens]
        by_cases closes : isClosing token.kind = true
        · have left : 1 < depth := by simpa [opens, closes] using stays [token] (by simp)
          rw [if_pos closes, if_neg (by omega)]
          exact ih (depth - 1) (stays.further (by simp [opens, closes]; omega))
        · rw [if_neg closes, ih depth (stays.further (by simp [opens, closes])), ite_self]

theorem closing_counts (depth : Nat) (front rest : List Token) (closed : closing depth (front ++ rest) = true) :
    front.countP (isClosing ·.kind) ≤ depth + front.countP (isOpening ·.kind) := by
  induction front generalizing depth with
  | nil => exact Nat.zero_le _
  | cons token front ih =>
      rw [List.countP_cons, List.countP_cons]
      rcases closing_cons closed with ⟨opens, deeper⟩ | ⟨opens, ⟨closes, left, rfl, shallower⟩ | ⟨closes, same⟩⟩
      · have counts := ih (depth + 1) deeper
        rw [if_pos opens, opening_unclosing token.kind opens, if_neg Bool.false_ne_true]
        omega
      · have counts := ih left shallower
        rw [if_neg opens, if_pos closes]
        omega
      · rw [if_neg opens, if_neg closes]
        exact ih depth same

theorem well_nested_stays_open (tokens more : List Token) (nested : wellNested [] (tokens ++ more) = true) :
    StaysOpen 1 tokens := by
  rintro front ⟨rest, rfl⟩
  rw [List.append_assoc] at nested
  have counts := closing_counts 0 front (rest ++ more) (well_nested_closing [] _ nested)
  omega

theorem arrow_ahead_params {lead : List Token} (opens : OpensParams lead) (behind : List Token) :
    arrowAhead (lead ++ behind) = arrowAfterClosing 1 behind := by
  cases opens with
  | bare paren opens => cases behind <;> simp [arrowAhead, arrowHead, opens]
  | async word paren isAsync opens sameLine => simp [arrowAhead, arrowHead, startsParams, isAsync, opens, sameLine]

theorem starts_with_arrow_cons (next : Token) (more : List Token) :
    startsWithArrow (next :: more) = true ↔ next.kind = .punct .arrow ∧ next.newlineBefore = false := by
  simp [startsWithArrow]

/-- From a parenthesis whose partner stands behind well-nested tokens, an arrow is seen exactly if it is the token behind the
partner and on the same line, whatever comes after that token. From one that is never closed, none is seen. -/
theorem arrow_seen_behind_partner {lead : List Token} (opens : OpensParams lead) :
    (∀ inner close next, wellNested [] inner = true → (∀ token ∈ inner, token.kind ≠ .endOfFile) →
      close.kind = .punct .rParen →
        ∃ seen, (seen = true ↔ next.kind = .punct .arrow ∧ next.newlineBefore = false) ∧
          ∀ context state more, state.rest = lead ++ inner ++ close :: next :: more →
            isArrowAhead context state = .ok seen state) ∧
    ∀ inner ended, StaysOpen 1 inner → ended.kind = .endOfFile →
      ∀ context state more, state.rest = lead ++ inner ++ ended :: more → isArrowAhead context state = .ok false state := by
  have answers : ∀ context state behind, state.rest = lead ++ behind →
      isArrowAhead context state = .ok (arrowAfterClosing 1 behind) state := by
    intro context state behind rest
    unfold isArrowAhead
    rw [rest, arrow_ahead_params opens]
  refine ⟨fun inner close next nested present closes => ?_, fun inner ended stays isEnd => ?_⟩
  · refine ⟨startsWithArrow [next], starts_with_arrow_cons next [], fun context state more rest => ?_⟩
    have level : closing 0 inner = true := well_nested_closing [] inner nested
    have partner : arrowAfterClosing 1 (close :: next :: more) = startsWithArrow (next :: more) := by
      simp [arrowAfterClosing, closes, isOpening, isClosing]
    rw [answers context state _ (rest.trans (List.append_assoc ..)),
      arrow_after_closing_behind 0 1 inner _ (Nat.le_refl 1) level present, partner]
    rfl
  · intro context state more rest
    rw [answers context state _ (rest.trans (List.append_assoc ..)), no_arrow_before_end 1 inner more ended stays isEnd]

-- `async ({ a: [b] }`, up to the partner of the parenthesis, and what may come then.
def asyncLead : List Token :=
  [⟨.identifier "async", ⟨0, 5⟩, false⟩, ⟨.punct .lParen, ⟨6, 7⟩, false⟩]

def nestedParams : List Token :=
  [⟨.punct .lBrace, ⟨7, 8⟩, false⟩, ⟨.identifier "a", ⟨9, 10⟩, false⟩, ⟨.punct .colon, ⟨10, 11⟩, false⟩,
    ⟨.punct .lBracket, ⟨12, 13⟩, false⟩, ⟨.identifier "b", ⟨13, 14⟩, false⟩, ⟨.punct .rBracket, ⟨14, 15⟩, false⟩,
    ⟨.punct .rBrace, ⟨16, 17⟩, false⟩]

def arrowBehindParams (newline : Bool) : List Token :=
  [⟨.punct .rParen, ⟨17, 18⟩, false⟩, ⟨.punct .arrow, ⟨19, 21⟩, newline⟩, ⟨.endOfFile, ⟨21, 21⟩, false⟩]

-- The arrow is seen on the line of the partner and not on the next one; where the file ends inside `[b`, none is seen.
theorem nested_params_before_arrow :
    OpensParams asyncLead ∧ wellNested [] nestedParams = true ∧ (∀ token ∈ nestedParams, token.kind ≠ .endOfFile) ∧
      isArrowAhead .top (.ofTokens (asyncLead ++ nestedParams ++ arrowBehindParams false)) =
        .ok true (.ofTokens (asyncLead ++ nestedParams ++ arrowBehindParams false)) ∧
      isArrowAhead .top (.ofTokens (asyncLead ++ nestedParams ++ arrowBehindParams true)) =
        .ok false (.ofTokens (asyncLead ++ nestedParams ++ arrowBehindParams true)) ∧
      StaysOpen 1 (nestedParams.take 5) ∧
      isArrowAhead .top (.ofTokens (asyncLead ++ nestedParams.take 5 ++ [⟨.endOfFile, ⟨14, 14⟩, false⟩])) =
        .ok false (.ofTokens (asyncLead ++ nestedParams.take 5 ++ [⟨.endOfFile, ⟨14, 14⟩, false⟩])) := by
  have opens : OpensParams asyncLead := .async _ _ rfl rfl rfl
  have nested : wellNested [] nestedParams = true := by decide
  have present : ∀ token ∈ nestedParams, token.kind ≠ .endOfFile := by decide
  have stays : StaysOpen 1 (nestedParams.take 5) := well_nested_stays_open _ (nestedParams.drop 5) (by decide)
  obtain ⟨seen, same, shown⟩ := (arrow_seen_behind_partner opens).1 nestedParams ⟨.punct .rParen, ⟨17, 18⟩, false⟩
    ⟨.punct .arrow, ⟨19, 21⟩, false⟩ nested present rfl
  obtain ⟨missed, broken, hidden⟩ := (arrow_seen_behind_partner opens).1 nestedParams ⟨.punct .rParen, ⟨17, 18⟩, false⟩
    ⟨.punct .arrow, ⟨19, 21⟩, true⟩ nested present rfl
  have isSeen : seen = true := same.mpr ⟨rfl, rfl⟩
  have isMissed : missed = false := by simpa using broken
  subst isSeen isMissed
  exact ⟨opens, nested, present, shown .top _ _ rfl, hidden .top _ _ rfl, stays,
    (arrow_seen_behind_partner opens).2 _ ⟨.endOfFile, ⟨14, 14⟩, false⟩ stays rfl .top _ [] rfl⟩

end ScriptSuite.Script
