import ScriptSuite.Discovery.TestCase
import ScriptSuite.Proofs.Script.Outline
import ScriptSuite.Proofs.Script.Positions

set_option autoImplicit false

namespace ScriptSuite.Discovery

open Text Script

inductive Quotes : Expr → String → Prop where
  | literal (text : String) : Quotes (.literal (.string text)) text
  | template (text : String) : Quotes (.template ⟨[text], []⟩) text
  | paren {inner : Spanned Expr} {text : String} : Quotes inner.node text → Quotes (.paren inner) text

inductive Chain : List String → Expr → Prop where
  | base (name : String) : Chain [name] (.ident name)
  | dot {path : List String} {object : Spanned Expr} (name : String) (optional : Bool) :
      Chain path object.node → Chain (path ++ [name]) (.member object (.ident name) optional)
  | computed {path : List String} {object key : Spanned Expr} {name : String} (optional : Bool) :
      Chain path object.node → Quotes key.node name → Chain (path ++ [name]) (.member object (.computed key) optional)
  | paren {path : List String} {inner : Spanned Expr} : Chain path inner.node → Chain path (.paren inner)

inductive TestCall (pattern : CallPattern) (name : String) : Expr → Prop where
  | call {callee argument : Spanned Expr} {args : List (Spanned Expr)} (optional : Bool) :
      Chain pattern.path callee.node → args[pattern.argumentIndex]? = some argument → Quotes argument.node name →
        isAllBlank name.toList = false → TestCall pattern name (.call callee args optional)
  | paren {inner : Spanned Expr} : TestCall pattern name inner.node → TestCall pattern name (.paren inner)

-- The cases of one statement after the other.
inductive Found (pattern : CallPattern) (path : Path) (text : List Char) : Body → List TestCase → Prop where
  | nil : Found pattern path text [] []
  | case {value : Spanned Expr} {span : Span} {name : String} {position : Position} {rest : Body} {cases : List TestCase} :
      TestCall pattern name value.node → position.offset? text = some span.start → Found pattern path text rest cases →
        Found pattern path text (⟨.expr value, span⟩ :: rest) (⟨name, path, position⟩ :: cases)
  | other {statement : Spanned Statement} {rest : Body} {cases : List TestCase} :
      (∀ value name, statement.node = .expr value → ¬ TestCall pattern name value.node) →
        Found pattern path text rest cases → Found pattern path text (statement :: rest) cases

theorem behind_parens (holds : Expr → Prop) (paren : ∀ inner : Spanned Expr, holds inner.node → holds (.paren inner))
    (expr : Expr) (bare : holds (unparen expr)) : holds expr := by
  fun_induction unparen expr with
  | case1 inner span step => exact paren ⟨inner, span⟩ (step bare)
  | case2 expr => exact bare

theorem quoted_iff (expr : Expr) (text : String) : literalText? expr = some text ↔ Quotes expr text := by
  constructor
  · intro read
    refine behind_parens (Quotes · text) (fun _ => .paren) expr ?_
    unfold literalText? at read
    split at read
    · next value shape =>
        cases read
        rw [shape]
        exact .literal text
    · next template shape =>
        rw [shape]
        unfold Template.plain? at read
        split at read
        · next plain quasis exprs =>
            cases read
            obtain ⟨quasis', exprs'⟩ := template
            cases quasis
            cases exprs
            exact .template text
        · cases read
    · cases read
  · intro quotes
    induction quotes with
    | literal text => rfl
    | template text => rfl
    | paren quotes step => exact step

theorem chain_nonempty {path : List String} {expr : Expr} (chain : Chain path expr) : path ≠ [] := by
  induction chain with
  | base name => exact List.cons_ne_nil name []
  | dot name optional chain step => exact List.append_ne_nil_of_right_ne_nil _ (List.cons_ne_nil name [])
  | computed optional chain quotes step => exact List.append_ne_nil_of_right_ne_nil _ (List.cons_ne_nil _ [])
  | paren chain step => exact step

theorem spells_member (path : List String) (object : Spanned Expr) (name : String) (property : MemberProp) (optional : Bool)
    (nonempty : path ≠ []) (same : memberName? property = some name) :
    spellsPath (path ++ [name]).reverse (.member object property optional) = spellsPath path.reverse object.node := by
  rw [List.reverse_append, List.reverse_singleton, List.singleton_append]
  cases reversed : path.reverse with
  | nil => exact absurd (List.reverse_eq_nil_iff.mp reversed) nonempty
  | cons last rest => simp [spellsPath, unparen, same]

theorem spells_paren (path : List String) (inner : Spanned Expr) :
    spellsPath path (.paren inner) = spellsPath path inner.node := by
  cases path with
  | nil => rfl
  | cons last rest =>
      cases rest with
      | nil => rfl
      | cons next rest => rfl

theorem chain_spells {path : List String} {expr : Expr} (chain : Chain path expr) : spellsPath path.reverse expr = true := by
  induction chain with
  | base name => simp [spellsPath, unparen]
  | dot name optional chain step => rwa [spells_member _ _ _ _ _ (chain_nonempty chain) rfl]
  | @computed path object key name optional chain quotes step =>
      have read : memberName? (.computed key) = some name := (quoted_iff key.node name).mpr quotes
      rwa [spells_member _ _ _ _ _ (chain_nonempty chain) read]
  | paren chain step => rwa [spells_paren]

theorem spelled_chain (reversed : List String) (expr : Expr) (spells : spellsPath reversed expr = true) :
    Chain reversed.reverse expr := by
  induction reversed generalizing expr with
  | nil => cases spells
  | cons last rest step =>
      refine behind_parens (Chain (last :: rest).reverse) (fun _ => .paren) expr ?_
      rw [List.reverse_cons]
      cases rest with
      | nil =>
          unfold spellsPath at spells
          split at spells
          · next name shape =>
              rw [shape, ← eq_of_beq spells]
              exact .base name
          · cases spells
      | cons next rest =>
          unfold spellsPath at spells
          split at spells
          · next object span property optional shape =>
              obtain ⟨segment, onward⟩ := Bool.and_eq_true_iff.mp spells
              have chain := step object onward
              rw [shape]
              cases property with
              | ident name =>
                  cases eq_of_beq segment
                  exact .dot last optional chain
              | computed key => exact .computed optional chain ((quoted_iff key.node last).mp (eq_of_beq segment))
          · cases spells

theorem spells_iff (path : List String) (expr : Expr) : spellsPath path.reverse expr = true ↔ Chain path expr :=
  ⟨fun spells => List.reverse_reverse path ▸ spelled_chain path.reverse expr spells, chain_spells⟩

theorem declared_iff (pattern : CallPattern) (expr : Expr) (name : String) :
    declaredName? pattern expr = some name ↔ TestCall pattern name expr := by
  constructor
  · intro declared
    refine behind_parens (TestCall pattern name) (fun _ => .paren) expr ?_
    unfold declaredName? at declared
    split at declared
    · next callee span args optional shape =>
        rw [shape]
        split at declared
        · next spells =>
            split at declared
            · next argument argumentSpan among =>
                obtain ⟨read, dark⟩ := Option.filter_eq_some_iff.mp declared
                exact .call optional ((spells_iff _ _).mp spells) among ((quoted_iff _ _).mp read) (by simpa using dark)
            · cases declared
        · cases declared
    · cases declared
  · intro call
    induction call with
    | call optional chain among quotes dark =>
        simp [declaredName?, unparen, (spells_iff _ _).mpr chain, among, (quoted_iff _ _).mpr quotes, dark]
    | paren call step => exact step

theorem declaration_of_statement (text : List Char) (pattern : CallPattern) (statement : Spanned Statement)
    (found : Declaration) :
    declarationOf? text pattern statement = some found ↔
      ∃ value : Spanned Expr, statement.node = .expr value ∧ TestCall pattern found.name value.node ∧
        found.position = positionIn text statement.span.start ∧ found.span = statement.span := by
  unfold declarationOf?
  split
  · next value shape =>
      rw [shape, Option.map_eq_some_iff]
      constructor
      · rintro ⟨name, declared, rfl⟩
        exact ⟨value, rfl, (declared_iff pattern value.node name).mp declared, rfl, rfl⟩
      · rintro ⟨_, same, call, position, span⟩
        cases same
        obtain ⟨name, place, extent⟩ := found
        cases position
        cases span
        exact ⟨name, (declared_iff pattern value.node name).mpr call, rfl⟩
  · next other =>
      simp only [reduceCtorEq, false_iff]
      rintro ⟨value, shape, -⟩
      exact other value shape

def caseOf (path : Path) (found : Declaration) : TestCase :=
  ⟨found.name, path, found.position⟩

theorem declarations_found (path : Path) (text : List Char) (pattern : CallPattern) (body : Body)
    (placed : ∀ statement ∈ body, Boundary text statement.span.start) :
    Found pattern path text body ((body.filterMap (declarationOf? text pattern)).map (caseOf path)) := by
  induction body with
  | nil => exact .nil
  | cons statement rest step =>
      have later := step fun other inside => placed other (List.mem_cons_of_mem statement inside)
      cases declared : declarationOf? text pattern statement with
      | none =>
          rw [List.filterMap_cons_none declared]
          refine .other (fun value name shape call => ?_) later
          have found := (declaration_of_statement text pattern statement
            ⟨name, positionIn text statement.span.start, statement.span⟩).mpr ⟨value, shape, call, rfl, rfl⟩
          rw [declared] at found
          cases found
      | some found =>
          rw [List.filterMap_cons_some declared, List.map_cons]
          obtain ⟨value, shape, call, position, -⟩ := (declaration_of_statement text pattern statement found).mp declared
          obtain ⟨node, span⟩ := statement
          cases shape
          refine .case call ?_ later
          rw [position]
          exact offset_of_position (placed _ List.mem_cons_self)

theorem declarations_ordered (text : List Char) (pattern : CallPattern) (body : Body)
    (placed : ∀ statement ∈ body, statement.span.Placed text)
    (ordered : (body.map Node.statement).Pairwise Node.Before) :
    (body.filterMap (declarationOf? text pattern)).Pairwise fun one two => one.position.Before two.position := by
  rw [List.pairwise_filterMap]
  refine (List.pairwise_map.mp ordered).imp_of_mem ?_
  intro one two first second before found declared later follows
  obtain ⟨-, -, -, here, -⟩ := (declaration_of_statement text pattern one found).mp declared
  obtain ⟨-, -, -, there, -⟩ := (declaration_of_statement text pattern two later).mp follows
  rw [here, there]
  have inside := (placed one first).nonempty
  exact positions_increase (placed one first).start (placed two second).start (Nat.lt_of_lt_of_le inside before)

/-- The cases of a script are the test calls among its statements, in their order: each has the name that its call quotes,
and its line and column lead back to where its statement begins. No two cases stand at one place. -/
theorem cases_are_test_calls (path : Path) (source : String) (pattern : CallPattern) (cases : List TestCase)
    (discovered : discoverSource path source pattern = .ok cases) :
    ∃ program, parseSource source = .ok program ∧ Found pattern path source.toList program.body cases ∧
      (cases.map (·.position)).Pairwise Position.Before ∧ (cases.map (·.position)).Nodup := by
  unfold discoverSource declarationsIn at discovered
  cases parsed : parseSource source with
  | error error =>
      rw [parsed] at discovered
      cases discovered
  | ok program =>
      rw [parsed] at discovered
      cases discovered
      obtain ⟨stop, strip⟩ := program_laid source program parsed
      have placed : ∀ statement ∈ program.body, statement.span.Placed source.toList := fun statement inside =>
        sound_placed (strip.sound (.statement statement) (List.mem_map_of_mem inside))
      have ordered : (program.body.map Node.statement).Pairwise Node.Before := strip.ordered
      have increasing := declarations_ordered source.toList pattern program.body placed ordered
      have positions : ((declarations source pattern program).map (caseOf path)).map (·.position) =
          (declarations source pattern program).map (·.position) := List.map_map
      refine ⟨program, rfl, declarations_found path source.toList pattern program.body fun statement inside =>
        (placed statement inside).start, ?_⟩
      refine ⟨positions ▸ List.pairwise_map.mpr increasing, positions ▸ ?_⟩
      refine (List.pairwise_map.mpr increasing).imp fun before same => ?_
      rw [same] at before
      exact before_irrefl _ before

def parenthesizedSource : String :=
  "/* é */ ((casper['test'])?.begin)((`é`), 2);\nexit();  casper[`test`].begin('b');"

/-- Parentheses, quoted segments and a letter of two bytes before the first call and in its name. -/
theorem parenthesized_cases_are_test_calls :
    ∃ cases, discoverSource ⟨"a.js"⟩ parenthesizedSource .standard = .ok cases ∧
      cases = [⟨"é", ⟨"a.js"⟩, ⟨1, 8⟩⟩, ⟨"b", ⟨"a.js"⟩, ⟨2, 9⟩⟩] ∧
      ∃ program, parseSource parenthesizedSource = .ok program ∧
        Found .standard ⟨"a.js"⟩ parenthesizedSource.toList program.body cases ∧
        (cases.map (·.position)).Pairwise Position.Before ∧ (cases.map (·.position)).Nodup := by
  have two : (discoverSource ⟨"a.js"⟩ parenthesizedSource .standard).toOption =
      some [⟨"é", ⟨"a.js"⟩, ⟨1, 8⟩⟩, ⟨"b", ⟨"a.js"⟩, ⟨2, 9⟩⟩] := by decide +kernel
  cases discovered : discoverSource ⟨"a.js"⟩ parenthesizedSource .standard with
  | error error => simp [discovered, Except.toOption] at two
  | ok cases =>
      rw [discovered] at two
      exact ⟨cases, rfl, Option.some.inj two, cases_are_test_calls ⟨"a.js"⟩ parenthesizedSource .standard cases discovered⟩

end ScriptSuite.Discovery
