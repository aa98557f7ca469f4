import ScriptSuite.Proofs.Script.Lexer.Substitutions
import ScriptSuite.Proofs.Script.Nodes
import ScriptSuite.Proofs.Script.Reading

/-!
How parsers lay the nodes that they build. What is read from a place on stands behind it, one node behind the other, and
a node that is closed around them spans from that place to the last token that was read. One rule for each way of
building a parser.
-/
set_option autoImplicit false

namespace ScriptSuite.Script

structure Span.Placed (text : List Char) (span : Span) : Prop where
  start : Boundary text span.start
  stop : Boundary text span.stop
  nonempty : span.start < span.stop

def Span.Covers (outer inner : Span) : Prop :=
  outer.start ≤ inner.start ∧ inner.stop ≤ outer.stop

def Node.Before (one two : Node) : Prop :=
  one.span.stop ≤ two.span.start

-- Inherited classes weigh nothing, since they are read at the level of the class that inherits from them.
def Visit.weight (visit : Visit) : Nat :=
  if visit.counts && !visit.isInheritedClass then 1 else 0

-- The spans are in order from here on down, and no way down weighs more than `bound`.
inductive Sound (text : List Char) : Nat → Visit → Prop where
  | node {bound : Nat} {visit : Visit} (deeper : Nat) (placed : visit.node.span.Placed text)
      (inside : ∀ child ∈ visit.node.children, visit.node.span.Covers child.span)
      (ordered : visit.node.children.Pairwise Node.Before) (weighs : visit.weight + deeper ≤ bound)
      (below : ∀ next ∈ visit.visits, Sound text deeper next) : Sound text bound visit

structure Leads (text : List Char) (r : Nat) (lead : Spanned Expr) : Prop where
  inherited : Sound text (r + 1) ⟨.expr lead, true⟩
  plain : Sound text (r + 2) ⟨.expr lead, false⟩

-- Nodes between two places, one behind the other; the first of them may be the head of a node to come.
structure Strip (text : List Char) (r bound start : Nat) (head : Option (Spanned Expr)) (nodes : List Node) (stop : Nat) :
    Prop where
  leads : ∀ lead ∈ head, Leads text r lead
  sound : ∀ node ∈ nodes, Sound text bound ⟨node, false⟩
  inside : ∀ node ∈ optionalNodes .expr head ++ nodes, start ≤ node.span.start ∧ node.span.stop ≤ stop
  ordered : (optionalNodes .expr head ++ nodes).Pairwise Node.Before

structure Cut where
  bound : Nat
  moved : Bool
  head : Option (Spanned Expr)
  nodes : List Node

def Cut.fresh (bound : Nat) : Cut :=
  ⟨bound, false, none, []⟩

structure Settled (text : List Char) (floor : Nat) (state : State) : Prop where
  lastEnd : floor = state.lastEnd
  boundary : Boundary text floor

structure Forward (text : List Char) (floor : Nat) (before : State) (stop : Nat) (after : State) : Prop where
  onward : floor ≤ stop
  settled : Settled text floor before → Settled text stop after

structure At (text : List Char) (ceiling r start : Nat) (cut : Cut) (floor : Nat) (state : State) : Prop where
  stream : Stream text ceiling floor state.rest
  boundary : Boundary text start
  before : start ≤ state.peek.span.start
  moved : cut.moved = true → start < floor ∧ Settled text floor state
  strip : Strip text r cut.bound start cut.head cut.nodes floor

section

variable {α : Type} (text : List Char) (r : Nat)

def GoesFrom (start : Nat) (pre : Cut) (parser : Parser α) (post : α → Cut) (context : Context) (state : State) : Prop :=
  ∀ ceiling floor value after, At text ceiling r start pre floor state → parser context state = .ok value after →
    ∃ stop, Forward text floor state stop after ∧ At text ceiling r start (post value) stop after

def Goes (start : Nat) (pre : Cut) (parser : Parser α) (post : α → Cut) : Prop :=
  ∀ context state, GoesFrom text r start pre parser post context state

def GoesAt (token : Token) (start : Nat) (pre : Cut) (parser : Parser α) (post : α → Cut) : Prop :=
  ∀ context state, state.peek = token → GoesFrom text r start pre parser post context state

def LaysTo (parser : Parser α) (post : α → Cut) : Prop :=
  ∀ context state, GoesFrom text r state.peek.span.start (Cut.fresh 0) parser post context state

def Lays (bound : Nat) (moves : Bool) (parser : Parser α) (nodes : α → List Node) : Prop :=
  LaysTo text r parser fun value => ⟨bound, moves, none, nodes value⟩

def LaysLead (parser : Parser (Spanned Expr)) : Prop :=
  LaysTo text r parser fun value => ⟨r, true, some value, []⟩

end

theorem sound_mono {text : List Char} {bound more : Nat} {visit : Visit} (sound : Sound text bound visit)
    (le : bound ≤ more) : Sound text more visit := by
  cases sound with
  | node deeper placed inside ordered weighs below =>
      exact .node deeper placed inside ordered (Nat.le_trans weighs le) below

theorem leads_mono {text : List Char} {r more : Nat} {lead : Spanned Expr} (leads : Leads text r lead) (le : r ≤ more) :
    Leads text more lead :=
  ⟨sound_mono leads.inherited (by omega), sound_mono leads.plain (by omega)⟩

theorem sound_placed {text : List Char} {bound : Nat} {visit : Visit} (sound : Sound text bound visit) :
    visit.node.span.Placed text := by
  cases sound with
  | node deeper placed inside ordered weighs below => exact placed

section

variable {text : List Char} {r bound start stop : Nat} {head : Option (Spanned Expr)} {nodes : List Node}

theorem strip_nothing : Strip text r bound start none [] stop :=
  ⟨by simp, by simp, by simp [optionalNodes], by simp [optionalNodes]⟩

theorem Strip.widen {more lower upper : Nat} (strip : Strip text r bound start head nodes stop) (le : bound ≤ more)
    (below : lower ≤ start) (above : stop ≤ upper) : Strip text r more lower head nodes upper := by
  refine ⟨strip.leads, fun node inside => sound_mono (strip.sound node inside) le, ?_, strip.ordered⟩
  intro node inside
  obtain ⟨first, last⟩ := strip.inside node inside
  exact ⟨Nat.le_trans below first, Nat.le_trans last above⟩

theorem Strip.append {middle next : Nat} {more : List Node} (strip : Strip text r bound start head nodes middle)
    (other : Strip text r bound next none more stop) (between : middle ≤ next) (onward : middle ≤ stop)
    (begins : start ≤ next) : Strip text r bound start head (nodes ++ more) stop := by
  have behind : ∀ node ∈ more, next ≤ node.span.start ∧ node.span.stop ≤ stop := other.inside
  refine ⟨strip.leads, ?_, ?_, ?_⟩
  · intro node inside
    exact (List.mem_append.mp inside).elim (strip.sound node) (other.sound node)
  · intro node inside
    rw [← List.append_assoc] at inside
    rcases List.mem_append.mp inside with early | late
    · obtain ⟨first, last⟩ := strip.inside node early
      exact ⟨first, Nat.le_trans last onward⟩
    · obtain ⟨first, last⟩ := behind node late
      exact ⟨Nat.le_trans begins first, last⟩
  · rw [← List.append_assoc, List.pairwise_append]
    refine ⟨strip.ordered, other.ordered, ?_⟩
    intro one early two late
    have above := (strip.inside one early).2
    have below := (behind two late).1
    exact Nat.le_trans above (Nat.le_trans between below)

theorem Strip.sublist {fewer : List Node} {lead : Option (Spanned Expr)} (strip : Strip text r bound start head nodes stop)
    (sublist : fewer.Sublist nodes) (kept : lead = none ∨ lead = head) : Strip text r bound start lead fewer stop := by
  have heads : (optionalNodes .expr lead).Sublist (optionalNodes .expr head) := by
    rcases kept with rfl | rfl
    · exact List.nil_sublist _
    · exact .refl _
  have both := heads.append sublist
  refine ⟨?_, fun node inside => strip.sound node (sublist.subset inside),
    fun node inside => strip.inside node (both.subset inside), strip.ordered.sublist both⟩
  rcases kept with rfl | rfl
  · simp
  · exact strip.leads

theorem Strip.close {node : Node} (strip : Strip text r bound start none nodes stop) (placed : node.span.Placed text)
    (covers : node.span.start ≤ start ∧ stop ≤ node.span.stop) (headless : node.head? = none) (same : node.nodes = nodes)
    (inherited : Bool) {total : Nat} (weighs : Visit.weight ⟨node, inherited⟩ + bound ≤ total) :
    Sound text total ⟨node, inherited⟩ := by
  have children : node.children = nodes := by simp [Node.children, headless, optionalNodes, same]
  refine .node bound placed ?_ ?_ weighs ?_
  · rw [children]
    intro child inside
    obtain ⟨first, last⟩ := strip.inside child inside
    exact ⟨Nat.le_trans covers.1 first, Nat.le_trans last covers.2⟩
  · rw [children]
    exact strip.ordered
  · intro next inside
    rw [show Visit.visits ⟨node, inherited⟩ = nodes.map (⟨·, false⟩) by simp [Visit.visits, headless, same]] at inside
    obtain ⟨child, among, rfl⟩ := List.mem_map.mp inside
    exact strip.sound child among

theorem class_weight (decl : Class) (span : Span) (inherited : Bool) :
    Visit.weight ⟨.expr ⟨.classExpr decl, span⟩, inherited⟩ = if inherited then 0 else 1 := by
  cases inherited <;> rfl

theorem expr_weight (visit : Visit) : visit.weight ≤ 1 := by
  unfold Visit.weight
  split <;> omega

-- Below a class the head is inherited; below a call or a member it is if they are.
theorem Strip.visits {value : Spanned Expr} (strip : Strip text r r start head nodes stop) (same : value.node.head? = head)
    (behind : value.node.nodes = nodes) (inherited : Bool) {deeper : Nat} (le : r ≤ deeper)
    (leads : ∀ lead ∈ head, Sound text deeper ⟨.expr lead, inherited || (Node.expr value).isClass⟩) :
    ∀ next ∈ Visit.visits ⟨.expr value, inherited⟩, Sound text deeper next := by
  have visits : Visit.visits ⟨.expr value, inherited⟩ =
      (head.toList.map fun lead => ⟨.expr lead, inherited || (Node.expr value).isClass⟩) ++ nodes.map (⟨·, false⟩) := by
    show (value.node.head?.toList.map _) ++ value.node.nodes.map _ = _
    rw [same, behind]
  intro next among
  rw [visits] at among
  rcases List.mem_append.mp among with first | later
  · obtain ⟨lead, member, rfl⟩ := List.mem_map.mp first
    exact leads lead (Option.mem_toList.mp member)
  · obtain ⟨node, member, rfl⟩ := List.mem_map.mp later
    exact sound_mono (strip.sound node member) le

theorem Strip.closeLead {value : Spanned Expr} (strip : Strip text r r start head nodes stop)
    (placed : value.span.Placed text) (covers : value.span.start ≤ start ∧ stop ≤ value.span.stop)
    (same : value.node.head? = head) (behind : value.node.nodes = nodes) : Leads text r value := by
  have children : (Node.expr value).children = optionalNodes .expr head ++ nodes := by
    show optionalNodes .expr value.node.head? ++ value.node.nodes = _
    rw [same, behind]
  have inside : ∀ child ∈ (Node.expr value).children, value.span.Covers child.span := by
    rw [children]
    intro child among
    obtain ⟨first, last⟩ := strip.inside child among
    exact ⟨Nat.le_trans covers.1 first, Nat.le_trans last covers.2⟩
  have ordered : (Node.expr value).children.Pairwise Node.Before := by
    rw [children]
    exact strip.ordered
  have below := fun inherited (deeper : Nat) (le : r ≤ deeper) => strip.visits same behind inherited le
  obtain ⟨expr, span⟩ := value
  cases head with
  | none =>
      have light := expr_weight ⟨.expr ⟨expr, span⟩, true⟩
      have heavy := expr_weight ⟨.expr ⟨expr, span⟩, false⟩
      exact ⟨.node r placed inside ordered (by omega) (below true r (Nat.le_refl _) (by simp)),
        .node r placed inside ordered (by omega) (below false r (Nat.le_refl _) (by simp))⟩
  | some lead =>
      have leads := strip.leads lead rfl
      have link : (Node.expr ⟨expr, span⟩).counts = false → (Node.expr ⟨expr, span⟩).isClass = false →
          Leads text r ⟨expr, span⟩ := by
        intro light other
        have weight : ∀ inherited, Visit.weight ⟨.expr ⟨expr, span⟩, inherited⟩ = 0 := by
          intro inherited
          simp [Visit.weight, Visit.counts, light]
        refine ⟨.node (r + 1) placed inside ordered (by rw [weight]; omega) (below true _ (by omega) ?_),
          .node (r + 2) placed inside ordered (by rw [weight]; omega) (below false _ (by omega) ?_)⟩
        · simpa using leads.inherited
        · simpa [other] using leads.plain
      cases expr with
      | classExpr decl =>
          refine ⟨.node (r + 1) placed inside ordered ?_ (below true _ (by omega) ?_),
            .node (r + 1) placed inside ordered ?_ (below false _ (by omega) ?_)⟩
          · rw [class_weight]
            simp
          · simpa using leads.inherited
          · rw [class_weight]
            simp
            omega
          · simpa [Node.isClass] using leads.inherited
      | tagged tag template => exact link rfl rfl
      | call callee args optional => exact link rfl rfl
      | new callee args => exact link rfl rfl
      | member object property optional => exact link rfl rfl
      | _ => cases same

theorem Strip.closeStatement {value : Spanned Statement} (strip : Strip text r bound start head nodes stop)
    (placed : value.span.Placed text) (covers : value.span.start ≤ start ∧ stop ≤ value.span.stop)
    (same : value.node.head? = head) (behind : value.node.nodes = nodes) (enough : r + 1 ≤ bound) :
    Sound text (bound + 1) ⟨.statement value, false⟩ := by
  have children : (Node.statement value).children = optionalNodes .expr head ++ nodes := by
    show optionalNodes .expr value.node.head? ++ value.node.nodes = _
    rw [same, behind]
  have visits : Visit.visits ⟨.statement value, false⟩ =
      (head.toList.map fun lead => ⟨.expr lead, false || (Node.statement value).isClass⟩) ++ nodes.map (⟨·, false⟩) := by
    show (value.node.head?.toList.map _) ++ value.node.nodes.map _ = _
    rw [same, behind]
  refine .node bound placed ?_ ?_ (Nat.le_of_eq (Nat.add_comm 1 bound)) ?_
  · rw [children]
    intro child among
    obtain ⟨first, last⟩ := strip.inside child among
    exact ⟨Nat.le_trans covers.1 first, Nat.le_trans last covers.2⟩
  · rw [children]
    exact strip.ordered
  · rw [visits]
    intro next among
    rcases List.mem_append.mp among with first | later
    · obtain ⟨lead, member, rfl⟩ := List.mem_map.mp first
      have found := Option.mem_toList.mp member
      obtain ⟨statement, span⟩ := value
      cases statement with
      | classDecl decl => exact sound_mono (strip.leads lead found).inherited enough
      | _ => exact absurd (same ▸ found) (by simp [Statement.head?])
    · obtain ⟨node, member, rfl⟩ := List.mem_map.mp later
      exact strip.sound node member

end

theorem stream_peek {text : List Char} {ceiling floor : Nat} {state : State} (stream : Stream text ceiling floor state.rest) :
    state.peek.Placed text floor ceiling := by
  obtain ⟨rest, lastEnd, recovered⟩ := state
  cases rest with
  | nil => exact absurd stream id
  | cons token rest => exact stream.1

theorem stream_advance {text : List Char} {ceiling floor : Nat} {state : State}
    (stream : Stream text ceiling floor state.rest) (present : state.peek.kind ≠ .endOfFile) :
    state.peek.span.start < state.peek.span.stop ∧ Stream text ceiling state.peek.span.stop state.advance.rest ∧
      state.advance.lastEnd = state.peek.span.stop := by
  obtain ⟨rest, tokens⟩ := peek_present state present
  rw [tokens] at stream
  obtain ⟨nonempty, onward⟩ := stream.2 present
  rw [advance_rest state state.peek rest tokens present]
  exact ⟨nonempty, onward, rfl⟩

section

variable {text : List Char} {ceiling r start floor : Nat} {cut : Cut} {state : State}

theorem forward_refl : Forward text floor state floor state :=
  ⟨Nat.le_refl _, id⟩

theorem forward_trans {middle stop : Nat} {between after : State} (one : Forward text floor state middle between)
    (two : Forward text middle between stop after) : Forward text floor state stop after :=
  ⟨Nat.le_trans one.onward two.onward, fun settled => two.settled (one.settled settled)⟩

theorem at_fresh (stream : Stream text ceiling floor state.rest) (bound : Nat) :
    At text ceiling r state.peek.span.start (Cut.fresh bound) floor state where
  stream := stream
  boundary := (stream_peek stream).start
  before := Nat.le_refl _
  moved := fun moved => Bool.noConfusion moved
  strip := strip_nothing

structure Cut.Below (less more : Cut) : Prop where
  bound : more.bound ≤ less.bound
  moved : less.moved = true → more.moved = true
  head : less.head = none ∨ less.head = more.head
  nodes : less.nodes.Sublist more.nodes

theorem cut_below_refl (cut : Cut) : Cut.Below cut cut :=
  ⟨Nat.le_refl _, id, .inr rfl, .refl _⟩

theorem At.weaken {less : Cut} (here : At text ceiling r start cut floor state) (below : less.Below cut) :
    At text ceiling r start less floor state where
  stream := here.stream
  boundary := here.boundary
  before := here.before
  moved := fun moved => here.moved (below.moved moved)
  strip := (here.strip.sublist below.nodes below.head).widen below.bound (Nat.le_refl _) (Nat.le_refl _)

theorem at_advance (here : At text ceiling r start cut floor state) (present : state.peek.kind ≠ .endOfFile) :
    Forward text floor state state.peek.span.stop state.advance ∧
      At text ceiling r start { cut with moved := true } state.peek.span.stop state.advance := by
  obtain ⟨nonempty, onward, lastEnd⟩ := stream_advance here.stream present
  have placed := stream_peek here.stream
  have above := placed.above
  have before := here.before
  have settled : Settled text state.peek.span.stop state.advance := ⟨lastEnd.symm, placed.stop⟩
  refine ⟨⟨by omega, fun _ => settled⟩, onward, here.boundary, ?_, fun _ => ⟨by omega, settled⟩, ?_⟩
  · have next := (stream_peek onward).above
    omega
  · exact here.strip.widen (Nat.le_refl _) (Nat.le_refl _) (by omega)

theorem at_advance_any (here : At text ceiling r start cut floor state) :
    ∃ stop, Forward text floor state stop state.advance ∧ At text ceiling r start cut stop state.advance := by
  by_cases present : state.peek.kind = .endOfFile
  · rw [advance_stays state present]
    exact ⟨floor, forward_refl, here⟩
  · obtain ⟨forward, there⟩ := at_advance here present
    exact ⟨_, forward, there.weaken ⟨Nat.le_refl _, fun _ => rfl, .inr rfl, .refl _⟩⟩

end

section

variable {α β σ : Type} {text : List Char} {r start : Nat} {pre : Cut} {token : Token}

theorem GoesAt.of {parser : Parser α} {post : α → Cut} (goes : Goes text r start pre parser post) :
    GoesAt text r token start pre parser post :=
  fun context state _ => goes context state

theorem Goes.weaken {parser : Parser α} {post less : α → Cut} (goes : Goes text r start pre parser post)
    (below : ∀ value, (less value).Below (post value)) : Goes text r start pre parser less := by
  intro context state ceiling floor value after here success
  obtain ⟨stop, forward, there⟩ := goes context state ceiling floor value after here success
  exact ⟨stop, forward, there.weaken (below value)⟩

theorem Goes.pure {value : α} {post : α → Cut} (below : (post value).Below pre) :
    Goes text r start pre (Pure.pure value : Parser α) post := by
  intro context state ceiling floor result after here success
  cases success
  exact ⟨floor, forward_refl, here.weaken below⟩

theorem Goes.return {value : α} {post : α → Cut} (same : post value = pre) :
    Goes text r start pre (Pure.pure value : Parser α) post :=
  .pure (by rw [same]; exact cut_below_refl pre)

theorem Goes.bind {first : Parser α} {second : α → Parser β} {mid : α → Cut} {post : β → Cut}
    (one : Goes text r start pre first mid) (two : ∀ value, Goes text r start (mid value) (second value) post) :
    Goes text r start pre (first >>= second) post := by
  intro context state ceiling floor value after here success
  obtain ⟨middle, between, read, finished⟩ := bind_ok success
  obtain ⟨place, forward, there⟩ := one context state ceiling floor middle between here read
  obtain ⟨stop, onward, done⟩ := two middle context between ceiling place value after there finished
  exact ⟨stop, forward_trans forward onward, done⟩

theorem GoesAt.bind {first : Parser α} {second : α → Parser β} {mid : α → Cut} {post : β → Cut}
    (one : GoesAt text r token start pre first mid) (two : ∀ value, Goes text r start (mid value) (second value) post) :
    GoesAt text r token start pre (first >>= second) post := by
  intro context state same ceiling floor value after here success
  obtain ⟨middle, between, read, finished⟩ := bind_ok success
  obtain ⟨place, forward, there⟩ := one context state same ceiling floor middle between here read
  obtain ⟨stop, onward, done⟩ := two middle context between ceiling place value after there finished
  exact ⟨stop, forward_trans forward onward, done⟩

theorem Goes.pass {value : α} {next : α → Parser β} {post : β → Cut} (goes : Goes text r start pre (next value) post) :
    Goes text r start pre (Pure.pure value >>= next) post :=
  goes

theorem Goes.fail {error : SyntaxError} {post : α → Cut} :
    Goes text r start pre (Parser.fail error : Parser α) post := by
  intro context state ceiling floor value after here success
  cases success

theorem Goes.unexpected {wanted : Expectation} {post : α → Cut} :
    Goes text r start pre (ScriptSuite.Script.unexpected wanted : Parser α) post := by
  intro context state ceiling floor value after here success
  cases success

theorem Goes.within {change : Context → Context} {parser : Parser α} {post : α → Cut}
    (goes : Goes text r start pre parser post) : Goes text r start pre (Parser.within change parser) post :=
  fun context state => goes (change context) state

theorem Goes.allowingIn {parser : Parser α} {post : α → Cut} (goes : Goes text r start pre parser post) :
    Goes text r start pre (ScriptSuite.Script.allowingIn parser) post :=
  goes.within

theorem Goes.inFunction {isAsync isGenerator : Bool} {parser : Parser α} {post : α → Cut}
    (goes : Goes text r start pre parser post) :
    Goes text r start pre (ScriptSuite.Script.inFunction isAsync isGenerator parser) post :=
  goes.within

theorem Goes.ite {condition : Prop} [Decidable condition] {yes no : Parser α} {post : α → Cut}
    (one : Goes text r start pre yes post) (two : Goes text r start pre no post) :
    Goes text r start pre (if condition then yes else no) post := by
  split
  · exact one
  · exact two

theorem GoesAt.ite {condition : Prop} [Decidable condition] {yes no : Parser α} {post : α → Cut}
    (one : GoesAt text r token start pre yes post) (two : GoesAt text r token start pre no post) :
    GoesAt text r token start pre (if condition then yes else no) post := by
  split
  · exact one
  · exact two

theorem Goes.look {view : Parser α} {next : α → Parser β} {post : β → Cut} (looks : Looks view)
    (goes : ∀ value, Goes text r start pre (next value) post) : Goes text r start pre (view >>= next) post := by
  intro context state
  obtain ⟨value, result⟩ := looks context state
  intro ceiling floor final after here success
  rw [bind_run, result] at success
  exact goes value context state ceiling floor final after here success

theorem GoesAt.look {view : Parser α} {next : α → Parser β} {post : β → Cut} (looks : Looks view)
    (goes : ∀ value, GoesAt text r token start pre (next value) post) :
    GoesAt text r token start pre (view >>= next) post := by
  intro context state same
  obtain ⟨value, result⟩ := looks context state
  intro ceiling floor final after here success
  rw [bind_run, result] at success
  exact goes value context state same ceiling floor final after here success

theorem Goes.peek {next : Token → Parser α} {post : α → Cut}
    (goes : ∀ token, GoesAt text r token start pre (next token) post) :
    Goes text r start pre (ScriptSuite.Script.peek >>= next) post :=
  fun context state => goes state.peek context state rfl

theorem Goes.check {kind : TokenKind} {next : Bool → Parser α} {post : α → Cut}
    (goes : ∀ token : Token, GoesAt text r token start pre (next (token.kind == kind)) post) :
    Goes text r start pre (ScriptSuite.Script.check kind >>= next) post :=
  fun context state => goes state.peek context state rfl

theorem Goes.advance : Goes text r start pre ScriptSuite.Script.advance fun _ => pre := by
  intro context state ceiling floor value after here success
  cases success
  exact at_advance_any here

theorem GoesAt.advance (present : token.kind ≠ .endOfFile) :
    GoesAt text r token start pre ScriptSuite.Script.advance fun _ => { pre with moved := true } := by
  intro context state same ceiling floor value after here success
  cases success
  exact ⟨_, at_advance here (by rw [same]; exact present)⟩

theorem Goes.accept {kind : TokenKind} : Goes text r start pre (ScriptSuite.Script.accept kind) fun _ => pre := by
  intro context state ceiling floor value after here success
  rw [accept_run] at success
  split at success
  · cases success
    exact at_advance_any here
  · cases success
    exact ⟨floor, forward_refl, here⟩

theorem Goes.expect {kind : TokenKind} {wanted : Expectation} (present : kind ≠ .endOfFile) :
    Goes text r start pre (ScriptSuite.Script.expect kind wanted) fun _ => { pre with moved := true } := by
  intro context state ceiling floor value after here success
  rw [expect_run] at success
  split at success
  · next same =>
      cases success
      exact ⟨_, at_advance here (by rw [same]; exact present)⟩
  · cases success

theorem Goes.acceptPunct {mark : Punct} : Goes text r start pre (ScriptSuite.Script.acceptPunct mark) fun _ => pre :=
  .accept

theorem Goes.acceptKeyword {word : Keyword} : Goes text r start pre (ScriptSuite.Script.acceptKeyword word) fun _ => pre :=
  .accept

theorem Goes.acceptWord {word : String} : Goes text r start pre (ScriptSuite.Script.acceptWord word) fun _ => pre :=
  .accept

theorem Goes.expectPunct {mark : Punct} :
    Goes text r start pre (ScriptSuite.Script.expectPunct mark) fun _ => { pre with moved := true } :=
  .expect (by simp)

theorem Goes.expectKeyword {word : Keyword} :
    Goes text r start pre (ScriptSuite.Script.expectKeyword word) fun _ => { pre with moved := true } :=
  .expect (by simp)

theorem Goes.expectWord {word : String} :
    Goes text r start pre (ScriptSuite.Script.expectWord word) fun _ => { pre with moved := true } :=
  .expect (by simp)

def Round.cut (known : σ → Cut) (post : α → Cut) : Round σ α → Cut
  | .again next => known next
  | .done value => post value

theorem Goes.repeat {round : σ → Parser (Round σ α)} {post : α → Cut} (known : σ → Cut)
    (goes : ∀ seed, Goes text r start (known seed) (round seed) (Round.cut known post))
    (seed : σ) : Goes text r start (known seed) (repeatRounds round seed) post := by
  have runs : ∀ (fuel : List Token) (seed : σ), Goes text r start (known seed) (repeatFrom round fuel seed) post := by
    intro fuel
    induction fuel with
    | nil =>
        refine fun seed => .bind (goes seed) fun step => ?_
        cases step with
        | again next => exact .unexpected
        | done value => exact .return rfl
    | cons _ fuel ih =>
        refine fun seed => .bind (goes seed) fun step => ?_
        cases step with
        | again next => exact ih next
        | done value => exact .return rfl
  exact .look looks_upcoming fun fuel => runs fuel seed

theorem at_closes {ceiling floor : Nat} {state : State} (here : At text ceiling r start pre floor state)
    (moved : pre.moved = true) :
    Span.Placed text ⟨start, max state.lastEnd start⟩ ∧ max state.lastEnd start = floor := by
  obtain ⟨nonempty, settled⟩ := here.moved moved
  have last := settled.lastEnd
  have same : max state.lastEnd start = floor := by omega
  rw [same]
  exact ⟨⟨here.boundary, settled.boundary, nonempty⟩, rfl⟩

theorem At.closed {ceiling floor total : Nat} {state : State} {node : Node} (here : At text ceiling r start pre floor state)
    (moved : pre.moved = true) (sound : Sound text total ⟨node, false⟩) (span : node.span = ⟨start, floor⟩) :
    At text ceiling r start ⟨total, true, none, [node]⟩ floor state where
  stream := here.stream
  boundary := here.boundary
  before := here.before
  moved := fun _ => here.moved moved
  strip := by
    refine ⟨by simp, by simpa using sound, ?_, by simp [optionalNodes]⟩
    simp only [optionalNodes, Option.toList_none, List.map_nil, List.nil_append, List.mem_singleton, forall_eq, span]
    exact ⟨Nat.le_refl _, Nat.le_refl _⟩

theorem At.closedLead {ceiling floor : Nat} {state : State} {value : Spanned Expr}
    (here : At text ceiling r start pre floor state) (moved : pre.moved = true) (leads : Leads text r value)
    (span : value.span = ⟨start, floor⟩) : At text ceiling r start ⟨r, true, some value, []⟩ floor state where
  stream := here.stream
  boundary := here.boundary
  before := here.before
  moved := fun _ => here.moved moved
  strip := by
    refine ⟨?_, by simp, ?_, by simp [optionalNodes]⟩
    · intro lead found
      cases found
      exact leads
    · simp only [optionalNodes, Option.toList_some, List.map_cons, List.map_nil, List.append_nil, List.mem_singleton,
        forall_eq, Node.span, span]
      exact ⟨Nat.le_refl _, Nat.le_refl _⟩

structure Shape (wrap : Spanned α → Node) (node : α) (nodes : List Node) (weight : Nat) : Prop where
  span : ∀ span, (wrap ⟨node, span⟩).span = span
  headless : ∀ span, (wrap ⟨node, span⟩).head? = none
  nodes : ∀ span, (wrap ⟨node, span⟩).nodes = nodes
  weight : ∀ span, Visit.weight ⟨wrap ⟨node, span⟩, false⟩ = weight

theorem Goes.spanned {wrap : Spanned α → Node} {node : α} {total : Nat} (weight : Nat)
    (shape : Shape wrap node pre.nodes weight) (moved : pre.moved = true) (weighs : weight + pre.bound ≤ total) :
    Goes text r start pre (spannedFrom start node) fun value => ⟨total, true, none, [wrap value]⟩ := by
  intro context state ceiling floor value after here success
  cases success
  obtain ⟨placed, same⟩ := at_closes here moved
  refine ⟨floor, forward_refl, here.closed moved ?_ (by rw [shape.span, same])⟩
  have strip := here.strip.sublist (.refl _) (.inl rfl)
  refine strip.close ?_ ?_ (shape.headless _) (shape.nodes _) false ?_
  · rw [shape.span]
    exact placed
  · rw [shape.span, same]
    exact ⟨Nat.le_refl _, Nat.le_refl _⟩
  · rw [shape.weight]
    exact weighs

theorem Goes.pattern {node : Pattern} {total : Nat} (nodes : node.nodes = pre.nodes) (moved : pre.moved = true)
    (bound : pre.bound ≤ total) :
    Goes text r start pre (spannedFrom start node) fun value => ⟨total, true, none, [.pattern value]⟩ :=
  .spanned 0 ⟨fun _ => rfl, fun _ => rfl, fun _ => nodes, fun _ => rfl⟩ moved (by omega)

theorem Goes.member {node : ClassMember} {total : Nat} (nodes : node.nodes = pre.nodes) (moved : pre.moved = true)
    (bound : pre.bound ≤ total) :
    Goes text r start pre (spannedFrom start node) fun value => ⟨total, true, none, [.member value]⟩ :=
  .spanned 0 ⟨fun _ => rfl, fun _ => rfl, fun _ => nodes, fun _ => rfl⟩ moved (by omega)

theorem Goes.expr {node : Expr} {total : Nat} (headless : node.head? = none) (nodes : node.nodes = pre.nodes)
    (moved : pre.moved = true) (light : ∀ span, (Node.expr ⟨node, span⟩).counts = false) (bound : pre.bound ≤ total) :
    Goes text r start pre (spannedFrom start node) fun value => ⟨total, true, none, [.expr value]⟩ :=
  .spanned 0 ⟨fun _ => rfl, fun _ => headless, fun _ => nodes,
    fun span => by simp [Visit.weight, Visit.counts, light span]⟩ moved (by omega)

theorem Goes.counted {node : Expr} {total : Nat} (headless : node.head? = none) (nodes : node.nodes = pre.nodes)
    (moved : pre.moved = true) (counts : ∀ span, (Node.expr ⟨node, span⟩).counts = true) (bound : 1 + pre.bound ≤ total) :
    Goes text r start pre (spannedFrom start node) fun value => ⟨total, true, none, [.expr value]⟩ :=
  .spanned 1 ⟨fun _ => rfl, fun _ => headless, fun _ => nodes,
    fun span => by simp [Visit.weight, Visit.counts, Visit.isInheritedClass, counts span]⟩ moved bound

theorem Goes.spannedLead {node : Expr} (head : node.head? = pre.head) (nodes : node.nodes = pre.nodes)
    (moved : pre.moved = true) (bound : pre.bound ≤ r) :
    Goes text r start pre (spannedFrom start node) fun value => ⟨r, true, some value, []⟩ := by
  intro context state ceiling floor value after here success
  cases success
  obtain ⟨placed, same⟩ := at_closes here moved
  have strip := here.strip.widen bound (Nat.le_refl _) (Nat.le_refl _)
  have leads : Leads text r ⟨node, ⟨start, max state.lastEnd start⟩⟩ :=
    strip.closeLead placed ⟨Nat.le_refl _, Nat.le_of_eq same.symm⟩ head nodes
  exact ⟨floor, forward_refl, here.closedLead moved leads (by rw [same])⟩

theorem Goes.spannedStatement {node : Statement} (head : node.head? = pre.head) (nodes : node.nodes = pre.nodes)
    (moved : pre.moved = true) (bound : r + 1 ≤ pre.bound) :
    Goes text r start pre (spannedFrom start node) fun value => ⟨pre.bound + 1, true, none, [.statement value]⟩ := by
  intro context state ceiling floor value after here success
  cases success
  obtain ⟨placed, same⟩ := at_closes here moved
  refine ⟨floor, forward_refl, here.closed moved ?_ (by rw [Node.span, same])⟩
  exact here.strip.closeStatement placed ⟨Nat.le_refl _, Nat.le_of_eq same.symm⟩ head nodes bound

theorem LaysTo.of {parser : Parser α} {post : α → Cut} (bound : Nat)
    (goes : ∀ start, Goes text r start (Cut.fresh bound) parser post) : LaysTo text r parser post := by
  intro context state ceiling floor value after here success
  exact goes _ context state ceiling floor value after (at_fresh here.stream bound) success

theorem LaysTo.own {next : Nat → Parser α} {post : α → Cut} (bound : Nat)
    (goes : ∀ start, Goes text r start (Cut.fresh bound) (next start) post) :
    LaysTo text r (startOffset >>= next) post := by
  intro context state ceiling floor value after here success
  exact goes _ context state ceiling floor value after (at_fresh here.stream bound) success

theorem LaysTo.ownToken {next : Token → Parser α} {post : α → Cut} (bound : Nat)
    (goes : ∀ token : Token, GoesAt text r token token.span.start (Cut.fresh bound) (next token) post) :
    LaysTo text r (ScriptSuite.Script.peek >>= next) post := by
  intro context state ceiling floor value after here success
  exact goes state.peek context state rfl ceiling floor value after (at_fresh here.stream bound) success

theorem LaysTo.first {parser : Parser α} {post : α → Cut} (lays : LaysTo text r parser post) (bound : Nat) (moved : Bool) :
    Goes text r start ⟨bound, moved, none, []⟩ parser post := by
  intro context state ceiling floor value after here success
  have before := here.before
  have placed := (stream_peek here.stream).above
  obtain ⟨stop, forward, there⟩ := lays context state ceiling floor value after (at_fresh here.stream 0) success
  have onward := there.before
  refine ⟨stop, forward, there.stream, here.boundary, by omega, ?_, there.strip.widen (Nat.le_refl _) before (Nat.le_refl _)⟩
  intro moves
  obtain ⟨nonempty, settled⟩ := there.moved moves
  exact ⟨by omega, settled⟩

theorem goes_behind {bound : Nat} {moves : Bool} {parser : Parser α} {nodes : α → List Node} {context : Context}
    {state : State} (lays : GoesFrom text r state.peek.span.start (Cut.fresh 0) parser
      (fun value => ⟨bound, moves, none, nodes value⟩) context state) (le : bound ≤ pre.bound) :
    GoesFrom text r start pre parser (fun value => ⟨pre.bound, pre.moved || moves, pre.head, pre.nodes ++ nodes value⟩)
      context state := by
  intro ceiling floor value after here success
  have before := here.before
  have above := (stream_peek here.stream).above
  obtain ⟨stop, forward, there⟩ := lays ceiling floor value after (at_fresh here.stream 0) success
  have onward := there.before
  have further := forward.onward
  refine ⟨stop, forward, there.stream, here.boundary, by omega, ?_, ?_⟩
  · intro either
    rcases Bool.or_eq_true_iff.mp either with already | moves
    · obtain ⟨nonempty, settled⟩ := here.moved already
      exact ⟨by omega, forward.settled settled⟩
    · obtain ⟨nonempty, settled⟩ := there.moved moves
      exact ⟨by omega, settled⟩
  · exact here.strip.append (there.strip.widen le (Nat.le_refl _) (Nat.le_refl _)) above further before

theorem Lays.goes {bound : Nat} {moves : Bool} {parser : Parser α} {nodes : α → List Node}
    (lays : Lays text r bound moves parser nodes) (le : bound ≤ pre.bound) :
    Goes text r start pre parser fun value => ⟨pre.bound, pre.moved || moves, pre.head, pre.nodes ++ nodes value⟩ :=
  fun context state => goes_behind (lays context state) le

theorem GoesAt.own {bound : Nat} {moves : Bool} {next : Nat → Parser α} {nodes : α → List Node} (deeper : Nat)
    (goes : ∀ start, GoesAt text r token start (Cut.fresh deeper) (next start) fun value => ⟨bound, moves, none, nodes value⟩)
    (le : bound ≤ pre.bound) :
    GoesAt text r token start pre (startOffset >>= next) fun value =>
      ⟨pre.bound, pre.moved || moves, pre.head, pre.nodes ++ nodes value⟩ := by
  intro context state same
  refine goes_behind (fun ceiling floor value after here success => ?_) le
  exact goes _ context state same ceiling floor value after (at_fresh here.stream deeper) success

theorem At.leadNode {ceiling floor : Nat} {state : State} {value : Spanned Expr}
    (here : At text ceiling r start ⟨r, true, some value, []⟩ floor state) :
    At text ceiling r start ⟨r + 2, true, none, [.expr value]⟩ floor state := by
  have leads := here.strip.leads value rfl
  refine ⟨here.stream, here.boundary, here.before, here.moved, by simp, ?_, ?_, here.strip.ordered⟩
  · simpa using leads.plain
  · exact here.strip.inside

theorem Goes.leadNode {parser : Parser (Spanned Expr)}
    (goes : Goes text r start pre parser fun value => ⟨r, true, some value, []⟩) :
    Goes text r start pre parser fun value => ⟨r + 2, true, none, [.expr value]⟩ := by
  intro context state ceiling floor value after here success
  obtain ⟨stop, forward, there⟩ := goes context state ceiling floor value after here success
  exact ⟨stop, forward, there.leadNode⟩

theorem LaysLead.node {parser : Parser (Spanned Expr)} (lays : LaysLead text r parser) :
    Lays text r (r + 2) true parser fun value => [.expr value] := by
  intro context state ceiling floor value after here success
  obtain ⟨stop, forward, there⟩ := lays context state ceiling floor value after here success
  exact ⟨stop, forward, there.leadNode⟩

end

end ScriptSuite.Script
