import ScriptSuite.Proofs.Script.Nodes
import ScriptSuite.Proofs.Script.Productions
import ScriptSuite.Proofs.Script.Semicolon.Ticking

set_option autoImplicit false

namespace ScriptSuite.Script

-- In the node stands a statement that ends at `stop`, or something that the tree does not keep: the default of a
-- shorthand property is read and dropped.
inductive Node.Shows (stop : Nat) : Node → Prop where
  | ends {statement : Spanned Statement} (closable : statement.node.closable = true) (last : statement.span.stop = stop) :
      Shows stop (.statement statement)
  | drops {props : List Property} {span : Span} {name : String} (short : .shorthand name ∈ props) :
      Shows stop (.expr ⟨.object props, span⟩)
  | inside {node child : Node} (within : child ∈ node.children) (shows : Shows stop child) : Shows stop node

-- The semicolon with the tick behind it, and what stands behind both.
structure Cue where
  semi : Token
  behind : List Token
  isSemi : semi.kind = .punct .semi
  forward : semi.span.start ≤ semi.span.stop

variable {α β σ : Type}

def Round.told (next : σ → Prop) (good : α → Prop) : Round σ α → Prop
  | .again seed => next seed
  | .done value => good value

namespace Cue

variable (cue : Cue)

def Among (nodes : List Node) : Prop :=
  ∃ node ∈ nodes, node.Shows cue.semi.span.stop

def Around (wrap : Spanned α → Node) (node : α) : Prop :=
  ∀ span, (wrap ⟨node, span⟩).Shows cue.semi.span.stop

-- The tick is still to come, or a statement that has been read has read it. Behind an error nothing is asked.
inductive Told (known : Prop) (state : State) : Prop where
  | ahead (front : List Token) (coming : state.rest = front ++ cue.semi :: tick :: cue.behind)
      (before : ∀ token ∈ front, token.kind ≠ .endOfFile ∧ token.span.start ≤ cue.semi.span.stop)
  | next (here : state.rest = tick :: cue.behind) (last : state.lastEnd = cue.semi.span.stop)
  | known (holds : known)
  | noted (errors : state.recovered ≠ [])

def Tells (known : Prop) (parser : Parser α) (good : α → Prop) : Prop :=
  ∀ context state value after, cue.Told known state → parser context state = .ok value after →
    cue.Told (good value) after

def TellsAt (token : Token) (known : Prop) (parser : Parser α) (good : α → Prop) : Prop :=
  ∀ context state value after, state.peek = token → cue.Told known state → parser context state = .ok value after →
    cue.Told (good value) after

abbrev Finds (parser : Parser α) (nodes : α → List Node) : Prop :=
  cue.Tells (cue.Among []) parser fun value => cue.Among (nodes value)

end Cue

variable {cue : Cue} {known more : Prop} {token : Token}

theorem not_among_nothing : ¬cue.Among [] := by
  simp [Cue.Among]

theorem among_append (one two : List Node) : cue.Among (one ++ two) ↔ cue.Among one ∨ cue.Among two := by
  simp [Cue.Among, or_and_right, exists_or]

theorem among_mono {one two : List Node} (subset : one ⊆ two) : cue.Among one → cue.Among two
  | ⟨node, inside, shows⟩ => ⟨node, subset inside, shows⟩

theorem among_flat_map {items : List α} {nodes : α → List Node} :
    cue.Among (items.flatMap nodes) ↔ ∃ item ∈ items, cue.Among (nodes item) := by
  simp only [Cue.Among, List.mem_flatMap]
  constructor
  · rintro ⟨node, ⟨item, inside, within⟩, shows⟩
    exact ⟨item, inside, node, within, shows⟩
  · rintro ⟨item, inside, node, within, shows⟩
    exact ⟨node, ⟨item, inside, within⟩, shows⟩

theorem among_child {node : Node} : cue.Among node.children → node.Shows cue.semi.span.stop
  | ⟨_, within, shows⟩ => .inside within shows

theorem among_one {node : Node} : cue.Among [node] ↔ node.Shows cue.semi.span.stop := by
  simp [Cue.Among]

theorem around_of {wrap : Spanned α → Node} {node : α} {pre : List Node} (same : ∀ span, (wrap ⟨node, span⟩).children = pre)
    (among : cue.Among pre) : cue.Around wrap node :=
  fun span => among_child (by rwa [same])

namespace Cue

theorem Told.mono {state : State} (told : cue.Told known state) (weaker : known → more) : cue.Told more state := by
  cases told with
  | ahead front coming before => exact .ahead front coming before
  | next here last => exact .next here last
  | known holds => exact .known (weaker holds)
  | noted errors => exact .noted errors

theorem Told.advance {state : State} (told : cue.Told known state) (other : state.peek.kind ≠ .punct .at) :
    cue.Told known state.advance := by
  have noted : state.recovered ≠ [] → cue.Told known state.advance := by
    obtain ⟨rest, lastEnd, recovered⟩ := state
    intro errors
    refine .noted ?_
    cases rest with
    | nil => exact errors
    | cons first rest =>
        unfold State.advance
        dsimp only
        split <;> exact errors
  obtain ⟨rest, lastEnd, recovered⟩ := state
  cases told with
  | ahead front coming before =>
      cases front with
      | nil =>
          subst coming
          rw [List.nil_append, advance_token cue.semi _ _ _ (by simp [cue.isSemi])]
          exact .next rfl rfl
      | cons first front =>
          subst coming
          obtain ⟨present, -⟩ := before first (.head _)
          rw [List.cons_append, advance_token first _ _ _ present]
          exact .ahead front rfl fun token inside => before token (.tail _ inside)
  | next here last =>
      cases here
      exact absurd rfl other
  | known holds => exact .known holds
  | noted errors => exact noted errors

theorem TellsAt.of {parser : Parser α} {good : α → Prop} (tells : cue.Tells known parser good) :
    cue.TellsAt token known parser good :=
  fun context state value after _ => tells context state value after

theorem Tells.weaken {parser : Parser α} {good better : α → Prop} (tells : cue.Tells known parser better)
    (first : more → known) (last : ∀ value, better value → good value) : cue.Tells more parser good :=
  fun context state value after told success => (tells context state value after (told.mono first) success).mono (last value)

theorem Tells.pure {value : α} {good : α → Prop} (holds : known → good value) : cue.Tells known (Pure.pure value) good := by
  intro context state result after told success
  cases success
  exact told.mono holds

theorem Tells.bind {first : Parser α} {second : α → Parser β} {middle : α → Prop} {good : β → Prop}
    (one : cue.Tells known first middle) (two : ∀ value, cue.Tells (middle value) (second value) good) :
    cue.Tells known (first >>= second) good := by
  intro context state value after told success
  obtain ⟨inner, between, read, finished⟩ := bind_ok success
  exact two inner context between value after (one context state inner between told read) finished

theorem Tells.pass {value : α} {next : α → Parser β} {good : β → Prop} (tells : cue.Tells known (next value) good) :
    cue.Tells known (Pure.pure value >>= next) good :=
  tells

theorem Tells.fail {error : SyntaxError} {good : α → Prop} : cue.Tells known (Parser.fail error : Parser α) good := by
  intro context state value after _ success
  cases success

theorem Tells.unexpected {wanted : Expectation} {good : α → Prop} :
    cue.Tells known (Script.unexpected wanted : Parser α) good := by
  intro context state value after _ success
  cases success

theorem Tells.within {change : Context → Context} {parser : Parser α} {good : α → Prop} (tells : cue.Tells known parser good) :
    cue.Tells known (Parser.within change parser) good :=
  fun context => tells (change context)

theorem Tells.allowingIn {parser : Parser α} {good : α → Prop} (tells : cue.Tells known parser good) :
    cue.Tells known (Script.allowingIn parser) good :=
  tells.within

theorem Tells.inFunction {isAsync isGenerator : Bool} {parser : Parser α} {good : α → Prop} (tells : cue.Tells known parser good) :
    cue.Tells known (Script.inFunction isAsync isGenerator parser) good :=
  tells.within

theorem Tells.ite {condition : Prop} [Decidable condition] {yes no : Parser α} {good : α → Prop}
    (one : cue.Tells known yes good) (two : cue.Tells known no good) :
    cue.Tells known (if condition then yes else no) good := by
  split
  · exact one
  · exact two

theorem Tells.look {view : Parser α} {next : α → Parser β} {good : β → Prop} (looks : Looks view)
    (tells : ∀ value, cue.Tells known (next value) good) : cue.Tells known (view >>= next) good := by
  intro context state value after told success
  obtain ⟨seen, result⟩ := looks context state
  rw [bind_run, result] at success
  exact tells seen context state value after told success

theorem Tells.peek {next : Token → Parser α} {good : α → Prop} (tells : ∀ token, cue.TellsAt token known (next token) good) :
    cue.Tells known (Script.peek >>= next) good :=
  fun context state value after => tells state.peek context state value after rfl

theorem Tells.check {kind : TokenKind} {next : Bool → Parser α} {good : α → Prop}
    (tells : ∀ token : Token, cue.TellsAt token known (next (token.kind == kind)) good) :
    cue.Tells known (Script.check kind >>= next) good :=
  fun context state value after => tells state.peek context state value after rfl

theorem Tells.accept {kind : TokenKind} (other : kind ≠ .punct .at) : cue.Tells known (Script.accept kind) fun _ => known := by
  intro context state value after told success
  rw [accept_run] at success
  split at success
  · next same =>
      cases success
      exact told.advance (by rwa [same])
  · cases success
    exact told

theorem Tells.expect {kind : TokenKind} {wanted : Expectation} (other : kind ≠ .punct .at) :
    cue.Tells known (Script.expect kind wanted) fun _ => known := by
  intro context state value after told success
  rw [expect_run] at success
  split at success
  · next same =>
      cases success
      exact told.advance (by rwa [same])
  · cases success

theorem Tells.acceptPunct {mark : Punct} (other : mark ≠ .at) : cue.Tells known (Script.acceptPunct mark) fun _ => known :=
  .accept (by simpa using other)

theorem Tells.acceptKeyword {word : Keyword} : cue.Tells known (Script.acceptKeyword word) fun _ => known :=
  .accept TokenKind.noConfusion

theorem Tells.acceptWord {word : String} : cue.Tells known (Script.acceptWord word) fun _ => known :=
  .accept TokenKind.noConfusion

theorem Tells.expectPunct {mark : Punct} (other : mark ≠ .at) : cue.Tells known (Script.expectPunct mark) fun _ => known :=
  .expect (by simpa using other)

theorem Tells.expectKeyword {word : Keyword} : cue.Tells known (Script.expectKeyword word) fun _ => known :=
  .expect TokenKind.noConfusion

theorem Tells.expectWord {word : String} : cue.Tells known (Script.expectWord word) fun _ => known :=
  .expect TokenKind.noConfusion

theorem Tells.repeat {round : σ → Parser (Round σ α)} {good : α → Prop} (start : σ → Prop)
    (tells : ∀ seed, cue.Tells (start seed) (round seed) (Round.told start good)) (seed : σ) :
    cue.Tells (start seed) (repeatRounds round seed) good := by
  intro context state value after told success
  obtain ⟨last, final, known, finished⟩ := repeat_rounds_invariant (fun seed state => cue.Told (start seed) state)
    (fun seed next here there told step => tells seed context here (.again next) there told step) success told
  exact tells last context final (.done value) after known finished

theorem Tells.around {wrap : Spanned α → Node} {start : Nat} {node : α} :
    cue.Tells (cue.Around wrap node) (spannedFrom start node) fun value => cue.Among [wrap value] := by
  intro context state value after told success
  cases success
  exact told.mono fun around => among_one.mpr (around _)

theorem Tells.node {wrap : Spanned α → Node} {start : Nat} {node : α} {pre : List Node}
    (same : ∀ span, (wrap ⟨node, span⟩).children = pre) :
    cue.Tells (cue.Among pre) (spannedFrom start node) fun value => cue.Among [wrap value] :=
  Tells.around.weaken (around_of same) fun _ => id

theorem Tells.closing {wrap : Spanned α → Node} {node : α} {pre : List Node} (same : ∀ span, (wrap ⟨node, span⟩).children = pre) :
    cue.Tells (cue.Among pre) (Pure.pure node) fun value => cue.Around wrap value :=
  .pure (around_of same)

theorem Tells.beside {parser : Parser α} {good : α → Prop} (tells : cue.Tells (cue.Among []) parser good) :
    cue.Tells known parser fun value => known ∨ good value := by
  intro context state value after told success
  have onward : cue.Told (cue.Among []) state → cue.Told (known ∨ good value) after :=
    fun told => (tells context state value after told success).mono .inr
  cases told with
  | ahead front coming before => exact onward (.ahead front coming before)
  | next here last => exact onward (.next here last)
  | known holds => exact .known (.inl holds)
  | noted errors => exact onward (.noted errors)

theorem Tells.goes {parser : Parser α} {nodes : α → List Node} {pre : List Node} (finds : cue.Finds parser nodes) :
    cue.Tells (cue.Among pre) parser fun value => cue.Among (pre ++ nodes value) :=
  finds.beside.weaken id fun _ => (among_append _ _).mpr

theorem TellsAt.bind {first : Parser α} {second : α → Parser β} {middle : α → Prop} {good : β → Prop}
    (one : cue.TellsAt token known first middle) (two : ∀ value, cue.Tells (middle value) (second value) good) :
    cue.TellsAt token known (first >>= second) good := by
  intro context state value after same told success
  obtain ⟨inner, between, read, finished⟩ := bind_ok success
  exact two inner context between value after (one context state inner between same told read) finished

theorem TellsAt.ite {condition : Prop} [Decidable condition] {yes no : Parser α} {good : α → Prop}
    (one : cue.TellsAt token known yes good) (two : cue.TellsAt token known no good) :
    cue.TellsAt token known (if condition then yes else no) good := by
  split
  · exact one
  · exact two

theorem TellsAt.look {view : Parser α} {next : α → Parser β} {good : β → Prop} (looks : Looks view)
    (tells : ∀ value, cue.TellsAt token known (next value) good) : cue.TellsAt token known (view >>= next) good := by
  intro context state value after same told success
  obtain ⟨seen, result⟩ := looks context state
  rw [bind_run, result] at success
  exact tells seen context state value after same told success

theorem TellsAt.advance (other : token.kind ≠ .punct .at) : cue.TellsAt token known Script.advance fun _ => known := by
  intro context state value after same told success
  cases success
  exact told.advance (by rwa [same])

end Cue

end ScriptSuite.Script
