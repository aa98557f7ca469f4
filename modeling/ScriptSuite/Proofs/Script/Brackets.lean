import ScriptSuite.Script.Parser

set_option autoImplicit false

namespace ScriptSuite.Script

def closer? : TokenKind → Option Punct
  | .punct .lParen => some .rParen
  | .punct .lBracket => some .rBracket
  | .punct .lBrace => some .rBrace
  | _ => none

def wellNested : List Punct → List Token → Bool
  | awaited, [] => awaited.isEmpty
  | awaited, token :: rest =>
      match closer? token.kind, awaited with
      | some mark, _ => wellNested (mark :: awaited) rest
      | none, [] => !isClosing token.kind && wellNested [] rest
      | none, mark :: outer =>
          if isClosing token.kind then token.kind == .punct mark && wellNested outer rest
          else wellNested (mark :: outer) rest

-- Unlike in `wellNested`, brackets that were opened before the list may be closed in it, and some may stay open.
def bracketsFit : List Punct → List Token → Prop
  | _, [] => True
  | awaited, token :: rest =>
      match closer? token.kind, awaited with
      | some mark, _ => bracketsFit (mark :: awaited) rest
      | none, [] => bracketsFit [] rest
      | none, mark :: outer =>
          if isClosing token.kind then token.kind = .punct mark ∧ bracketsFit outer rest
          else bracketsFit (mark :: outer) rest

-- The closing braces of the list whose opening braces are not in it.
def owedBraces : List Token → Nat
  | [] => 0
  | token :: rest =>
      if token.kind = .punct .lBrace then owedBraces rest - 1
      else if token.kind = .punct .rBrace then owedBraces rest + 1
      else owedBraces rest

theorem is_opening_closer (kind : TokenKind) : isOpening kind = (closer? kind).isSome := by
  cases kind with
  | punct mark => cases mark <;> rfl
  | _ => rfl

theorem closer_opens_brace (kind : TokenKind) :
    closer? kind = some .rBrace ↔ kind = .punct .lBrace := by
  cases kind with
  | punct mark => cases mark <;> simp [closer?]
  | _ => simp [closer?]

theorem unopening_no_brace (kind : TokenKind) (opened : closer? kind = none) : kind ≠ .punct .lBrace := by
  intro same
  simp [same, closer?] at opened

theorem unclosing_no_brace (kind : TokenKind) (unclosing : ¬ isClosing kind = true) : kind ≠ .punct .rBrace := by
  intro same
  simp [same, isClosing] at unclosing

theorem count_awaited (mark : Punct) (awaited : List Punct) :
    (mark :: awaited).count .rBrace = [mark].count .rBrace + awaited.count .rBrace :=
  @List.count_append _ _ _ [mark] awaited

theorem owed_plain (token : Token) (rest : List Token) (notOpening : token.kind ≠ .punct .lBrace)
    (notClosing : token.kind ≠ .punct .rBrace) : owedBraces (token :: rest) = owedBraces rest := by
  simp [owedBraces, notOpening, notClosing]

theorem owed_open (token : Token) (rest : List Token) (opening : token.kind = .punct .lBrace) :
    owedBraces (token :: rest) = owedBraces rest - 1 := by
  simp [owedBraces, opening]

theorem owed_close (token : Token) (rest : List Token) (closing : token.kind = .punct .rBrace) :
    owedBraces (token :: rest) = owedBraces rest + 1 := by
  simp [owedBraces, closing]

theorem owed_opening (token : Token) (mark : Punct) (rest : List Token) (opened : closer? token.kind = some mark) :
    owedBraces (token :: rest) = owedBraces rest - [mark].count .rBrace := by
  by_cases brace : token.kind = .punct .lBrace
  · have same : mark = .rBrace := Option.some.inj (opened.symm.trans ((closer_opens_brace token.kind).mpr brace))
    rw [owed_open token rest brace, same, List.count_singleton_self]
  · have other : mark ≠ .rBrace := by
      intro same
      rw [same] at opened
      exact brace ((closer_opens_brace token.kind).mp opened)
    have notClosing : token.kind ≠ .punct .rBrace := by
      intro same
      simp [same, closer?] at opened
    rw [owed_plain token rest brace notClosing, List.count_cons_of_ne other, List.count_nil, Nat.sub_zero]

theorem owed_closing (token : Token) (mark : Punct) (rest : List Token) (closing : token.kind = .punct mark)
    (notOpening : token.kind ≠ .punct .lBrace) :
    owedBraces (token :: rest) = owedBraces rest + [mark].count .rBrace := by
  by_cases brace : mark = .rBrace
  · rw [owed_close token rest (by rw [closing, brace]), brace, List.count_singleton_self]
  · have plain : token.kind ≠ .punct .rBrace := by simp [closing, brace]
    rw [owed_plain token rest notOpening plain, List.count_cons_of_ne brace, List.count_nil, Nat.add_zero]

theorem owed_tail (token : Token) (rest : List Token) (notClosing : token.kind ≠ .punct .rBrace) :
    owedBraces (token :: rest) ≤ owedBraces rest := by
  by_cases opening : token.kind = .punct .lBrace
  · rw [owed_open token rest opening]
    omega
  · exact Nat.le_of_eq (owed_plain token rest opening notClosing)

theorem well_nested_cons {awaited : List Punct} {token : Token} {rest : List Token}
    (nested : wellNested awaited (token :: rest) = true) :
    (∃ mark, closer? token.kind = some mark ∧ wellNested (mark :: awaited) rest = true) ∨
      closer? token.kind = none ∧
        ((∃ mark outer, awaited = mark :: outer ∧ isClosing token.kind = true ∧ token.kind = .punct mark ∧
            wellNested outer rest = true) ∨
          isClosing token.kind = false ∧ wellNested awaited rest = true) := by
  cases opened : closer? token.kind with
  | some mark =>
      simp only [wellNested, opened] at nested
      exact .inl ⟨mark, rfl, nested⟩
  | none =>
      refine .inr ⟨rfl, ?_⟩
      cases awaited with
      | nil =>
          simp only [wellNested, opened, Bool.and_eq_true, Bool.not_eq_true'] at nested
          exact .inr nested
      | cons mark outer =>
          by_cases closes : isClosing token.kind = true
          · simp only [wellNested, opened, if_pos closes, Bool.and_eq_true, beq_iff_eq] at nested
            exact .inl ⟨mark, outer, rfl, closes, nested⟩
          · simp only [wellNested, opened, if_neg closes] at nested
            exact .inr ⟨Bool.eq_false_iff.mpr closes, nested⟩

theorem brackets_fit_forget (inner outer : List Punct) (tokens : List Token)
    (fit : bracketsFit (inner ++ outer) tokens) : bracketsFit inner tokens := by
  induction tokens generalizing inner outer with
  | nil => trivial
  | cons token rest ih =>
      cases opened : closer? token.kind with
      | some mark =>
          simp only [bracketsFit, opened] at fit ⊢
          exact ih (mark :: inner) outer fit
      | none =>
          by_cases closing : isClosing token.kind = true
          · cases inner with
            | nil =>
                cases outer with
                | nil => exact fit
                | cons mark outer =>
                    simp only [List.nil_append, bracketsFit, opened, if_pos closing] at fit ⊢
                    exact ih [] outer fit.2
            | cons mark inner =>
                simp only [List.cons_append, bracketsFit, opened, if_pos closing] at fit ⊢
                exact ⟨fit.1, ih inner outer fit.2⟩
          · cases inner with
            | nil =>
                cases outer with
                | nil => exact fit
                | cons mark outer =>
                    simp only [List.nil_append, bracketsFit, opened, if_neg closing] at fit ⊢
                    exact ih [] (mark :: outer) fit
            | cons mark inner =>
                simp only [List.cons_append, bracketsFit, opened, if_neg closing] at fit ⊢
                exact ih (mark :: inner) outer fit

theorem brackets_fit_tail (token : Token) (rest : List Token) (fit : bracketsFit [] (token :: rest)) :
    bracketsFit [] rest := by
  cases opened : closer? token.kind with
  | some mark =>
      simp only [bracketsFit, opened] at fit
      exact brackets_fit_forget [] [mark] rest fit
  | none => simpa only [bracketsFit, opened] using fit

theorem brackets_fit_suffix (tokens rest : List Token) (suffix : rest <:+ tokens) (fit : bracketsFit [] tokens) :
    bracketsFit [] rest := by
  induction tokens with
  | nil =>
      rw [List.suffix_nil.mp suffix]
      trivial
  | cons token tail ih =>
      rcases List.suffix_cons_iff.mp suffix with whole | within
      · rw [whole]
        exact fit
      · exact ih within (brackets_fit_tail token tail fit)

theorem brackets_fit_append (awaited : List Punct) (tokens rest : List Token) (nested : wellNested awaited tokens = true)
    (fit : bracketsFit [] rest) : bracketsFit awaited (tokens ++ rest) := by
  induction tokens generalizing awaited with
  | nil =>
      have closed : awaited = [] := by simpa [wellNested] using nested
      rw [closed]
      exact fit
  | cons token tail ih =>
      rw [List.cons_append]
      rcases well_nested_cons nested with ⟨mark, opened, inner⟩ | ⟨opened, ⟨mark, outer, rfl, closes, same, inner⟩ | ⟨plain, inner⟩⟩
      · simp only [bracketsFit, opened]
        exact ih _ inner
      · simp only [bracketsFit, opened, if_pos closes]
        exact ⟨same, ih _ inner⟩
      · have fits := ih _ inner
        cases awaited with
        | nil => simpa only [bracketsFit, opened] using fits
        | cons mark outer => simpa only [bracketsFit, opened, plain, if_neg Bool.false_ne_true] using fits

theorem owed_append (awaited : List Punct) (tokens rest : List Token) (nested : wellNested awaited tokens = true) :
    owedBraces (tokens ++ rest) = awaited.count .rBrace + owedBraces rest := by
  induction tokens generalizing awaited with
  | nil =>
      have closed : awaited = [] := by simpa [wellNested] using nested
      simp [closed]
  | cons token tail ih =>
      rw [List.cons_append]
      rcases well_nested_cons nested with ⟨mark, opened, inner⟩ | ⟨opened, ⟨mark, outer, rfl, closes, same, inner⟩ | ⟨plain, inner⟩⟩
      · rw [owed_opening token mark _ opened, ih _ inner, count_awaited mark awaited]
        omega
      · rw [owed_closing token mark _ same (unopening_no_brace token.kind opened), ih _ inner, count_awaited mark outer]
        omega
      · have notClosing := unclosing_no_brace token.kind (Bool.eq_false_iff.mp plain)
        rw [owed_plain token _ (unopening_no_brace token.kind opened) notClosing]
        exact ih _ inner

theorem well_nested_suffix (awaited : List Punct) (tokens rest : List Token) (nested : wellNested awaited tokens = true)
    (suffix : rest <:+ tokens) : ∃ inner, wellNested inner rest = true := by
  induction tokens generalizing awaited with
  | nil =>
      rw [List.suffix_nil.mp suffix]
      exact ⟨awaited, nested⟩
  | cons token tail ih =>
      rcases List.suffix_cons_iff.mp suffix with whole | within
      · rw [whole]
        exact ⟨awaited, nested⟩
      · rcases well_nested_cons nested with ⟨_, _, inner⟩ | ⟨_, ⟨_, _, _, _, _, inner⟩ | ⟨_, inner⟩⟩
        all_goals exact ih _ inner within

end ScriptSuite.Script
