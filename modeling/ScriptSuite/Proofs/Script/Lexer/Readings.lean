import ScriptSuite.Proofs.Script.Lexer.Extent

set_option autoImplicit false

namespace ScriptSuite.Script

open Text Number

def Escape.value : Escape → List Char
  | .character c => [c]
  | .lineContinuation => []
  | .endOfText => []

inductive StringRead (quote : Char) : Cursor → List Char → Cursor → Prop where
  | closed {cursor : Cursor} {rest : List Char} (here : cursor.rest = quote :: rest) :
      StringRead quote cursor [] cursor.next
  | escaped {cursor after last : Cursor} {escape : Escape} {rest text : List Char} (here : cursor.rest = '\\' :: rest)
      (inside : '\\' ≠ quote) (read : scanEscape cursor.next = (escape, after)) (present : escape ≠ .endOfText)
      (onward : StringRead quote after text last) : StringRead quote cursor (escape.value ++ text) last
  | plain {cursor last : Cursor} {c : Char} {rest text : List Char} (here : cursor.rest = c :: rest) (inside : c ≠ quote)
      (noEscape : c ≠ '\\') (noBreak : ¬(c = '\n' || c = '\r') = true) (onward : StringRead quote cursor.next text last) :
      StringRead quote cursor (c :: text) last

theorem StringRead.character {quote value : Char} {cursor after last : Cursor} {rest text : List Char}
    (here : cursor.rest = '\\' :: rest) (inside : '\\' ≠ quote) (read : scanEscape cursor.next = (.character value, after))
    (onward : StringRead quote after text last) : StringRead quote cursor (value :: text) last :=
  .escaped here inside read (by simp) onward

theorem string_body_read {quote : Char} {fuel : List Char} {cursor : Cursor} {text : List Char} {last : Cursor}
    (scanned : scanStringBody quote fuel cursor = .ok (text, last)) : StringRead quote cursor text last := by
  induction fuel generalizing cursor text with
  | nil => cases scanned
  | cons _ fuel ih =>
      unfold scanStringBody at scanned
      split at scanned
      · cases scanned
      · next c rest here =>
          split at scanned
          · next ends =>
              cases scanned
              subst ends
              exact .closed here
          · next inside =>
              split at scanned
              · next escape =>
                  subst escape
                  split at scanned
                  · next read =>
                      obtain ⟨⟨tail, stop⟩, inner, same⟩ := except_bind_ok scanned
                      cases same
                      exact .character here inside read (ih inner)
                  · next read => exact .escaped here inside read (by simp) (ih scanned)
                  · cases scanned
              · next noEscape =>
                  split at scanned
                  · cases scanned
                  · next noBreak =>
                      obtain ⟨⟨tail, stop⟩, inner, same⟩ := except_bind_ok scanned
                      cases same
                      exact .plain here inside noEscape noBreak (ih inner)

theorem StringRead.present {quote : Char} {cursor last : Cursor} {text : List Char}
    (read : StringRead quote cursor text last) : cursor.rest ≠ [] := by
  cases read with
  | closed here => simp [here]
  | escaped here => simp [here]
  | plain here => simp [here]

theorem StringRead.precedes {quote : Char} {cursor last : Cursor} {text : List Char}
    (read : StringRead quote cursor text last) : cursor.Precedes last := by
  induction read with
  | closed here => exact precedes_next _
  | escaped here inside read present onward ih =>
      exact precedes_trans (precedes_next _) (precedes_trans (precedes_scan_escape_eq read) ih)
  | plain here inside noEscape noBreak onward ih => exact precedes_trans (precedes_next _) ih

-- A step of a literal leaves fewer characters, so what is enough fuel stays enough.
theorem fuel_behind {cursor after : Cursor} {c f : Char} {rest fuel : List Char} (here : cursor.rest = c :: rest)
    (behind : cursor.next.Precedes after) (enough : cursor.rest.length ≤ (f :: fuel).length) :
    after.rest.length ≤ fuel.length := by
  obtain ⟨word, takes⟩ := behind
  have shorter := congrArg List.length takes.text
  rw [next_rest cursor c rest here, List.length_append] at shorter
  rw [here, List.length_cons, List.length_cons] at enough
  omega

theorem StringRead.scanned {quote : Char} {fuel : List Char} {cursor last : Cursor} {text : List Char}
    (read : StringRead quote cursor text last) (enough : cursor.rest.length ≤ fuel.length) :
    scanStringBody quote fuel cursor = .ok (text, last) := by
  induction fuel generalizing cursor text with
  | nil => exact absurd (List.eq_nil_of_length_eq_zero (Nat.le_zero.mp enough)) read.present
  | cons f fuel ih =>
      unfold scanStringBody
      cases read with
      | closed here =>
          rw [here]
          exact if_pos rfl
      | @escaped _ after _ escape rest text here inside escaped present onward =>
          have further := ih onward (fuel_behind here (precedes_scan_escape_eq escaped) enough)
          rw [here]
          dsimp only
          rw [if_neg inside, if_pos rfl, escaped]
          cases escape with
          | character value =>
              dsimp only
              rw [further]
              rfl
          | lineContinuation => exact further
          | endOfText => exact absurd rfl present
      | plain here inside noEscape noBreak onward =>
          have further := ih onward (fuel_behind here (precedes_refl _) enough)
          rw [here]
          dsimp only
          rw [if_neg inside, if_neg noEscape, if_neg noBreak, further]
          rfl

theorem StringRead.scan {quote : Char} {cursor last : Cursor} {text : List Char}
    (read : StringRead quote cursor.next text last) :
    scanString cursor quote = .ok (.string (String.ofList text), last) := by
  unfold scanString
  rw [read.scanned (Nat.le_refl _)]
  rfl

theorem string_read_written {quote : Char} {write : Char → List Char}
    (single : ∀ (c : Char) {rest text : List Char} {offset : Nat} {last : Cursor},
      StringRead quote ⟨rest, offset + byteLength (write c)⟩ text last →
        StringRead quote ⟨write c ++ rest, offset⟩ (c :: text) last) (text following : List Char) (offset : Nat) :
    StringRead quote ⟨text.flatMap write ++ quote :: following, offset⟩ text
      ⟨following, offset + byteLength (text.flatMap write) + quote.utf8Size⟩ := by
  induction text generalizing offset with
  | nil => exact .closed rfl
  | cons c text ih =>
      rw [List.flatMap_cons, List.append_assoc, byteLength_append, ← Nat.add_assoc]
      exact single c (ih _)

inductive TemplateRead (base : Nat) : List Char → Cursor → List TemplatePart → Cursor → Prop where
  | closed {literal rest : List Char} {cursor : Cursor} (here : cursor.rest = '`' :: rest) :
      TemplateRead base literal cursor [.text (String.ofList literal.reverse)] cursor.next
  | escaped {literal rest : List Char} {cursor after last : Cursor} {escape : Escape} {parts : List TemplatePart}
      (here : cursor.rest = '\\' :: rest) (read : scanEscape cursor.next = (escape, after)) (present : escape ≠ .endOfText)
      (onward : TemplateRead base (escape.value ++ literal) after parts last) : TemplateRead base literal cursor parts last
  | opened {literal rest : List Char} {cursor after last : Cursor} {parts : List TemplatePart}
      (here : cursor.rest = '$' :: '{' :: rest)
      (skipped : skipSubstitution cursor.next.next.rest [.substitution 0] cursor.next.next = .ok ((), after))
      (onward : TemplateRead base [] after parts last) :
      TemplateRead base literal cursor (.text (String.ofList literal.reverse)
        :: .substitution (String.ofList (cursor.next.next.upTo after).dropLast) (base + cursor.next.next.offset) :: parts) last
  | plain {literal rest : List Char} {cursor last : Cursor} {c : Char} {parts : List TemplatePart}
      (here : cursor.rest = c :: rest) (noEnd : c ≠ '`') (noEscape : c ≠ '\\')
      (noOpening : ∀ tail, c = '$' → rest = '{' :: tail → False) (onward : TemplateRead base (c :: literal) cursor.next parts last) :
      TemplateRead base literal cursor parts last

theorem TemplateRead.character {base : Nat} {value : Char} {literal rest : List Char} {cursor after last : Cursor}
    {parts : List TemplatePart} (here : cursor.rest = '\\' :: rest) (read : scanEscape cursor.next = (.character value, after))
    (onward : TemplateRead base (value :: literal) after parts last) : TemplateRead base literal cursor parts last :=
  .escaped here read (by simp) onward

theorem template_body_read {base : Nat} {fuel literal : List Char} {cursor last : Cursor} {parts : List TemplatePart}
    (scanned : scanTemplateBody base fuel literal cursor = .ok (parts, last)) : TemplateRead base literal cursor parts last := by
  induction fuel generalizing literal cursor parts with
  | nil => cases scanned
  | cons _ fuel ih =>
      unfold scanTemplateBody at scanned
      split at scanned
      · cases scanned
      · next here =>
          cases scanned
          exact .closed here
      · next here =>
          split at scanned
          · next read => exact .character here read (ih scanned)
          · next read => exact .escaped here read (by simp) (ih scanned)
          · cases scanned
      · next here =>
          obtain ⟨⟨nothing, after⟩, skipped, onward⟩ := except_bind_ok scanned
          obtain ⟨⟨tail, stop⟩, inner, same⟩ := except_bind_ok onward
          cases same
          exact .opened here skipped (ih inner)
      · next noEnd noEscape noOpening here => exact .plain here noEnd noEscape noOpening (ih scanned)

theorem TemplateRead.present {base : Nat} {literal : List Char} {cursor last : Cursor} {parts : List TemplatePart}
    (read : TemplateRead base literal cursor parts last) : cursor.rest ≠ [] := by
  cases read with
  | closed here => simp [here]
  | escaped here => simp [here]
  | opened here => simp [here]
  | plain here => simp [here]

theorem TemplateRead.precedes {base : Nat} {literal : List Char} {cursor last : Cursor} {parts : List TemplatePart}
    (read : TemplateRead base literal cursor parts last) : cursor.Precedes last := by
  induction read with
  | closed here => exact precedes_next _
  | escaped here read present onward ih =>
      exact precedes_trans (precedes_next _) (precedes_trans (precedes_scan_escape_eq read) ih)
  | opened here skipped onward ih =>
      refine precedes_trans (precedes_next _) (precedes_trans (precedes_next _) ?_)
      exact precedes_trans (precedes_skip_substitution _ _ _ _ skipped) ih
  | plain here noEnd noEscape noOpening onward ih => exact precedes_trans (precedes_next _) ih

theorem TemplateRead.scanned {base : Nat} {fuel literal : List Char} {cursor last : Cursor} {parts : List TemplatePart}
    (read : TemplateRead base literal cursor parts last) (enough : cursor.rest.length ≤ fuel.length) :
    scanTemplateBody base fuel literal cursor = .ok (parts, last) := by
  induction fuel generalizing literal cursor parts with
  | nil => exact absurd (List.eq_nil_of_length_eq_zero (Nat.le_zero.mp enough)) read.present
  | cons f fuel ih =>
      unfold scanTemplateBody
      cases read with
      | closed here =>
          rw [here]
          rfl
      | @escaped _ rest _ after _ escape parts here escaped present onward =>
          have further := ih onward (fuel_behind here (precedes_scan_escape_eq escaped) enough)
          rw [here]
          dsimp only
          rw [escaped]
          cases escape with
          | character value => exact further
          | lineContinuation => exact further
          | endOfText => exact absurd rfl present
      | opened here skipped onward =>
          have behind := precedes_trans (precedes_next _) (precedes_skip_substitution _ _ _ _ skipped)
          have further := ih onward (fuel_behind here behind enough)
          rw [here]
          dsimp only
          rw [skipped]
          dsimp only [bind, Except.bind]
          rw [further]
          rfl
      | plain here noEnd noEscape noOpening onward =>
          have further := ih onward (fuel_behind here (precedes_refl _) enough)
          rw [here]
          split
          · next same => cases same
          · next same => exact absurd (List.cons.inj same).1 noEnd
          · next same => exact absurd (List.cons.inj same).1 noEscape
          · next same => exact (noOpening _ (List.cons.inj same).1 (List.cons.inj same).2).elim
          · next same =>
              cases same
              exact further

theorem TemplateRead.scan {base : Nat} {cursor last : Cursor} {parts : List TemplatePart}
    (read : TemplateRead base [] cursor.next parts last) : scanTemplate base cursor = .ok (.template parts, last) := by
  unfold scanTemplate
  rw [read.scanned (Nat.le_refl _)]
  rfl

inductive NumberRead (cursor : Cursor) : TokenKind → Cursor → Prop where
  | decimal {value : Double} (plain : radixOfPrefix? cursor.rest = none)
      (noSuffix : ¬((cursor.advance (digitRun 10 cursor.rest)).peek? == some 'n') = true)
      (valued : Double.ofText? (dropSeparators (decimalText cursor.rest)) = some value)
      (noName : ¬(cursor.advance (decimalText cursor.rest)).peek?.any isIdentifierStart = true) :
      NumberRead cursor (.number value) (cursor.advance (decimalText cursor.rest))
  | bigint (plain : radixOfPrefix? cursor.rest = none)
      (suffix : ((cursor.advance (digitRun 10 cursor.rest)).peek? == some 'n') = true) :
      NumberRead cursor (.bigint (String.ofList (dropSeparators (digitRun 10 cursor.rest))))
        (cursor.advance (digitRun 10 cursor.rest)).next
  | radix {radix : Nat} (found : radixOfPrefix? cursor.rest = some radix)
      (digits : ¬(dropSeparators (digitRun radix cursor.next.next.rest)).isEmpty = true)
      (noSuffix : ¬((cursor.next.next.advance (digitRun radix cursor.next.next.rest)).peek? == some 'n') = true) :
      NumberRead cursor
        (.number (Double.ofDigits radix ((dropSeparators (digitRun radix cursor.next.next.rest)).filterMap (digitValue? radix))))
        (cursor.next.next.advance (digitRun radix cursor.next.next.rest))
  | radixBigint {radix : Nat} (found : radixOfPrefix? cursor.rest = some radix)
      (digits : ¬(dropSeparators (digitRun radix cursor.next.next.rest)).isEmpty = true)
      (suffix : ((cursor.next.next.advance (digitRun radix cursor.next.next.rest)).peek? == some 'n') = true) :
      NumberRead cursor (.bigint (String.ofList (cursor.rest.take ((digitRun radix cursor.next.next.rest).length + 2))))
        (cursor.next.next.advance (digitRun radix cursor.next.next.rest)).next

theorem number_read {cursor last : Cursor} {kind : TokenKind} (scanned : scanNumber cursor = .ok (kind, last)) :
    NumberRead cursor kind last := by
  unfold scanNumber at scanned
  split at scanned
  · next found =>
      unfold scanRadix at scanned
      dsimp only at scanned
      split at scanned
      · cases scanned
      · next digits =>
          split at scanned
          · next suffix =>
              cases scanned
              exact .radixBigint found digits suffix
          · next noSuffix =>
              cases scanned
              exact .radix found digits noSuffix
  · next plain =>
      unfold scanDecimal at scanned
      dsimp only at scanned
      split at scanned
      · next suffix =>
          cases scanned
          exact .bigint plain suffix
      · next noSuffix =>
          split at scanned
          · cases scanned
          · next valued =>
              split at scanned
              · cases scanned
              · next noName =>
                  cases scanned
                  exact .decimal plain noSuffix valued noName

inductive KindRead (base : Nat) (c : Char) (cursor : Cursor) : TokenKind → Cursor → Prop where
  | string {text : List Char} {last : Cursor} (quoted : c = '"' ∨ c = '\'') (read : StringRead c cursor.next text last) :
      KindRead base c cursor (.string (String.ofList text)) last
  | template {parts : List TemplatePart} {last : Cursor} (tick : c = '`') (read : TemplateRead base [] cursor.next parts last) :
      KindRead base c cursor (.template parts) last
  | number {value : Double} {last : Cursor} (starts : isAsciiDigit c = true ∨ c = '.')
      (read : NumberRead cursor (.number value) last) : KindRead base c cursor (.number value) last
  | bigint {digits : String} {last : Cursor} (starts : isAsciiDigit c = true ∨ c = '.')
      (read : NumberRead cursor (.bigint digits) last) : KindRead base c cursor (.bigint digits) last
  | regex {pattern flags : String} {last : Cursor} (slash : c = '/')
      (scanned : scanRegex cursor = .ok (.regex pattern flags, last)) : KindRead base c cursor (.regex pattern flags) last
  | privateName (hash : c = '#') (starts : cursor.next.peek?.any isIdentifierStart = true) :
      KindRead base c cursor (.privateName (String.ofList (cursor.next.takeWhile isIdentifierPart).1))
        (cursor.next.takeWhile isIdentifierPart).2
  | keyword {word : Keyword} (starts : isIdentifierStart c = true)
      (found : Keyword.ofName? (String.ofList (cursor.takeWhile isIdentifierPart).1) = some word) :
      KindRead base c cursor (.keyword word) (cursor.takeWhile isIdentifierPart).2
  | name (starts : isIdentifierStart c = true)
      (free : Keyword.ofName? (String.ofList (cursor.takeWhile isIdentifierPart).1) = none) :
      KindRead base c cursor (.identifier (String.ofList (cursor.takeWhile isIdentifierPart).1))
        (cursor.takeWhile isIdentifierPart).2
  | punct {mark : Punct} {last : Cursor} (scanned : scanPunct cursor = .ok (.punct mark, last)) :
      KindRead base c cursor (.punct mark) last

theorem NumberRead.kind_read {base : Nat} {c : Char} {cursor last : Cursor} {kind : TokenKind}
    (read : NumberRead cursor kind last) (starts : isAsciiDigit c = true ∨ c = '.') : KindRead base c cursor kind last := by
  cases read with
  | decimal plain noSuffix valued noName => exact .number starts (.decimal plain noSuffix valued noName)
  | bigint plain suffix => exact .bigint starts (.bigint plain suffix)
  | radix found digits noSuffix => exact .number starts (.radix found digits noSuffix)
  | radixBigint found digits suffix => exact .bigint starts (.radixBigint found digits suffix)

theorem word_read {base : Nat} {c : Char} {cursor last : Cursor} {kind : TokenKind} (starts : isIdentifierStart c = true)
    (scanned : scanWord cursor = (kind, last)) : KindRead base c cursor kind last := by
  unfold scanWord at scanned
  dsimp only at scanned
  split at scanned
  · next found =>
      cases scanned
      exact .keyword starts found
  · next free =>
      cases scanned
      exact .name starts free

theorem punct_read {base : Nat} {c : Char} {cursor last : Cursor} {kind : TokenKind}
    (scanned : scanPunct cursor = .ok (kind, last)) : KindRead base c cursor kind last := by
  have result := scanned
  unfold scanPunct at result
  split at result
  · cases result
  · split at result
    · cases result
      exact .punct scanned
    · cases result
      exact .punct scanned
  · cases result
    exact .punct scanned

theorem kind_read {base : Nat} {previous : Option TokenKind} {c : Char} {cursor last : Cursor} {kind : TokenKind}
    (scanned : scanKind base previous c cursor = .ok (kind, last)) : KindRead base c cursor kind last := by
  unfold scanKind at scanned
  split at scanned
  · next quoted =>
      obtain ⟨⟨text, stop⟩, body, same⟩ := except_bind_ok scanned
      cases same
      exact .string (by simpa using quoted) (string_body_read body)
  · split at scanned
    · next tick =>
        obtain ⟨⟨parts, stop⟩, body, same⟩ := except_bind_ok scanned
        cases same
        exact .template tick (template_body_read body)
    · split at scanned
      · next digit => exact (number_read scanned).kind_read (.inl digit)
      · split at scanned
        · next point => exact (number_read scanned).kind_read (.inr (of_decide_eq_true (Bool.and_eq_true_iff.mp point).1))
        · split at scanned
          · next slash =>
              obtain ⟨⟨nothing, stop⟩, body, same⟩ := except_bind_ok scanned
              cases same
              exact .regex (of_decide_eq_true (Bool.and_eq_true_iff.mp slash).1) scanned
          · split at scanned
            · next hash =>
                unfold scanPrivateName at scanned
                dsimp only at scanned
                split at scanned
                · next starts =>
                    cases scanned
                    exact .privateName hash starts
                · cases scanned
            · split at scanned
              · next starts => exact word_read starts (Except.ok.inj scanned)
              · exact punct_read scanned

end ScriptSuite.Script
