import ScriptSuite.Proofs.Script.Moving
import ScriptSuite.Proofs.Script.Nodes

set_option autoImplicit false

namespace ScriptSuite.Script

def Node.moved (distance : Nat) : Node → Node
  | .statement value => .statement (Movable.moved distance value)
  | .expr value => .expr (Movable.moved distance value)
  | .pattern value => .pattern (Movable.moved distance value)
  | .member value => .member (Movable.moved distance value)

instance : Movable Node := ⟨Node.moved⟩

section

variable {distance : Nat}

@[simp] theorem moved_node_expr (value : Spanned Expr) :
    Movable.moved distance (Node.expr value) = .expr (Movable.moved distance value) := rfl

@[simp] theorem moved_node_statement (value : Spanned Statement) :
    Movable.moved distance (Node.statement value) = .statement (Movable.moved distance value) := rfl

@[simp] theorem moved_node_pattern (value : Spanned Pattern) :
    Movable.moved distance (Node.pattern value) = .pattern (Movable.moved distance value) := rfl

@[simp] theorem moved_node_member (value : Spanned ClassMember) :
    Movable.moved distance (Node.member value) = .member (Movable.moved distance value) := rfl

section

variable {α β : Type} [Movable α] [Movable β]

theorem moved_map {make : α → β}
    (carries : ∀ value, Movable.moved distance (make value) = make (Movable.moved distance value)) (values : List α) :
    Movable.moved distance (values.map make) = (Movable.moved distance values).map make := by
  induction values with
  | nil => rfl
  | cons value rest ih => rw [moved_cons, List.map_cons, List.map_cons, moved_cons, ih, carries]

theorem moved_flat_map {parts : α → List β}
    (carries : ∀ value, Movable.moved distance (parts value) = parts (Movable.moved distance value)) (values : List α) :
    Movable.moved distance (values.flatMap parts) = (Movable.moved distance values).flatMap parts := by
  induction values with
  | nil => rfl
  | cons value rest ih => rw [moved_cons, List.flatMap_cons, List.flatMap_cons, moved_append, ih, carries]

theorem moved_optional_parts {parts : α → List β}
    (carries : ∀ value, Movable.moved distance (parts value) = parts (Movable.moved distance value)) (value : Option α) :
    Movable.moved distance ((value.map parts).getD []) = ((Movable.moved distance value).map parts).getD [] := by
  cases value with
  | none => rfl
  | some value => exact carries value

theorem moved_optional_nodes {wrap : α → Node}
    (carries : ∀ value, Movable.moved distance (wrap value) = wrap (Movable.moved distance value)) (value : Option α) :
    Movable.moved distance (optionalNodes wrap value) = optionalNodes wrap (Movable.moved distance value) := by
  cases value with
  | none => rfl
  | some value => exact congrArg (· :: []) (carries value)

end

@[simp] theorem moved_expr_list (values : List (Spanned Expr)) :
    Movable.moved distance (values.map Node.expr) = (Movable.moved distance values).map .expr :=
  moved_map moved_node_expr values

@[simp] theorem moved_statement_list (values : List (Spanned Statement)) :
    Movable.moved distance (values.map Node.statement) = (Movable.moved distance values).map .statement :=
  moved_map moved_node_statement values

@[simp] theorem moved_pattern_list (values : List (Spanned Pattern)) :
    Movable.moved distance (values.map Node.pattern) = (Movable.moved distance values).map .pattern :=
  moved_map moved_node_pattern values

@[simp] theorem moved_member_list (values : List (Spanned ClassMember)) :
    Movable.moved distance (values.map Node.member) = (Movable.moved distance values).map .member :=
  moved_map moved_node_member values

@[simp] theorem moved_expr_option (value : Option (Spanned Expr)) :
    Movable.moved distance (optionalNodes .expr value) = optionalNodes .expr (Movable.moved distance value) :=
  moved_optional_nodes moved_node_expr value

@[simp] theorem moved_statement_option (value : Option (Spanned Statement)) :
    Movable.moved distance (optionalNodes .statement value) = optionalNodes .statement (Movable.moved distance value) :=
  moved_optional_nodes moved_node_statement value

@[simp] theorem moved_pattern_option (value : Option (Spanned Pattern)) :
    Movable.moved distance (optionalNodes .pattern value) = optionalNodes .pattern (Movable.moved distance value) :=
  moved_optional_nodes moved_node_pattern value

@[simp] theorem moved_key_nodes (key : PropKey) : Movable.moved distance key.nodes = (key.moved distance).nodes := by
  cases key <;> simp [PropKey.nodes]

@[simp] theorem moved_member_prop_nodes (property : MemberProp) :
    Movable.moved distance property.nodes = (property.moved distance).nodes := by
  cases property <;> simp [MemberProp.nodes]

@[simp] theorem moved_function_nodes (function : Function) :
    Movable.moved distance function.nodes = (function.moved distance).nodes := by
  cases function
  simp [Function.nodes]

@[simp] theorem moved_template_nodes (template : Template) :
    Movable.moved distance template.nodes = (template.moved distance).nodes := by
  cases template
  simp [Template.nodes]

@[simp] theorem moved_class_nodes (decl : Class) : Movable.moved distance decl.nodes = (decl.moved distance).nodes := by
  cases decl
  simp [Class.nodes]

@[simp] theorem moved_arrow_body_nodes (body : ArrowBody) :
    Movable.moved distance body.nodes = (body.moved distance).nodes := by
  cases body <;> simp [ArrowBody.nodes]

@[simp] theorem moved_property_nodes (property : Property) :
    Movable.moved distance property.nodes = (property.moved distance).nodes := by
  cases property <;> simp [Property.nodes]

@[simp] theorem moved_pattern_prop_nodes (prop : PatternProp) :
    Movable.moved distance prop.nodes = (prop.moved distance).nodes := by
  cases prop <;> simp [PatternProp.nodes]

@[simp] theorem moved_declarator_nodes (decl : Declarator) :
    Movable.moved distance decl.nodes = (decl.moved distance).nodes := by
  cases decl
  simp [Declarator.nodes]

@[simp] theorem moved_var_decl_nodes (decl : VarDecl) :
    Movable.moved distance decl.nodes = (decl.moved distance).nodes := by
  cases decl
  simp [VarDecl.nodes, moved_flat_map moved_declarator_nodes]

@[simp] theorem moved_for_init_nodes (init : ForInit) :
    Movable.moved distance init.nodes = (init.moved distance).nodes := by
  cases init <;> simp [ForInit.nodes]

@[simp] theorem moved_catch_clause_nodes (clause : CatchClause) :
    Movable.moved distance clause.nodes = (clause.moved distance).nodes := by
  cases clause
  simp [CatchClause.nodes]

@[simp] theorem moved_switch_case_nodes (clause : SwitchCase) :
    Movable.moved distance clause.nodes = (clause.moved distance).nodes := by
  cases clause
  simp [SwitchCase.nodes]

@[simp] theorem moved_statement_nodes (statement : Statement) :
    Movable.moved distance statement.nodes = (statement.moved distance).nodes := by
  cases statement <;> simp [Statement.nodes, moved_flat_map moved_switch_case_nodes, moved_optional_parts moved_for_init_nodes,
    moved_optional_parts moved_catch_clause_nodes, moved_optional_parts moved_statement_list]

@[simp] theorem moved_expr_nodes (expr : Expr) : Movable.moved distance expr.nodes = (expr.moved distance).nodes := by
  cases expr <;> simp [Expr.nodes, moved_flat_map moved_property_nodes, moved_flat_map moved_expr_option]

@[simp] theorem moved_pattern_nodes (pattern : Pattern) :
    Movable.moved distance pattern.nodes = (pattern.moved distance).nodes := by
  cases pattern <;> simp [Pattern.nodes, moved_flat_map moved_pattern_prop_nodes, moved_flat_map moved_pattern_option]

@[simp] theorem moved_class_member_nodes (member : ClassMember) :
    Movable.moved distance member.nodes = (member.moved distance).nodes := by
  cases member <;> simp [ClassMember.nodes]

theorem moved_head (node : Node) : Movable.moved distance node.head? = (node.moved distance).head? := by
  cases node with
  | statement value =>
      obtain ⟨statement, span⟩ := value
      cases statement with
      | classDecl decl =>
          cases decl
          simp [Node.moved, Node.head?, Statement.head?]
      | _ => rfl
  | expr value =>
      obtain ⟨expr, span⟩ := value
      cases expr with
      | classExpr decl =>
          cases decl
          simp [Node.moved, Node.head?, Expr.head?]
      | _ => simp [Node.moved, Node.head?, Expr.head?]
  | _ => rfl

theorem moved_children (node : Node) : Movable.moved distance node.children = (node.moved distance).children := by
  unfold Node.children
  rw [moved_append, moved_expr_option, moved_head]
  congr 1
  cases node with
  | statement value => exact moved_statement_nodes value.node
  | expr value => exact moved_expr_nodes value.node
  | pattern value => exact moved_pattern_nodes value.node
  | member value => exact moved_class_member_nodes value.node

theorem program_moved_has (program : Program) (node : Node) :
    (program.moved distance).Has node ↔ ∃ here, program.Has here ∧ node = here.moved distance := by
  constructor
  · intro has
    induction has with
    | top inside =>
        obtain ⟨statement, here, rfl⟩ := List.mem_map.mp inside
        exact ⟨.statement statement, .top here, rfl⟩
    | @child node child has inside ih =>
        obtain ⟨here, stands, rfl⟩ := ih
        rw [← moved_children] at inside
        obtain ⟨below, child, rfl⟩ := List.mem_map.mp inside
        exact ⟨below, .child stands child, rfl⟩
  · rintro ⟨here, stands, rfl⟩
    induction stands with
    | top inside => exact .top (List.mem_map_of_mem inside)
    | @child node child has inside ih =>
        refine .child ih ?_
        rw [← moved_children]
        exact List.mem_map_of_mem inside

end

end ScriptSuite.Script
