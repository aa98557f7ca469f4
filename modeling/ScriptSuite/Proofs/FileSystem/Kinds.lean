import ScriptSuite.Proofs.FileSystem.Places

set_option autoImplicit false

namespace ScriptSuite.FileSystem

inductive Kind where
  | file
  | directory
  | link
deriving DecidableEq, Repr

namespace Node

def kind : Node → Kind
  | .file _ _ => .file
  | .directory _ => .directory
  | .link _ => .link

def outside : Node → Node
  | .directory _ => .directory []
  | node => node

theorem kind_outside (node : Node) : node.outside.kind = node.kind := by
  cases node <;> rfl

-- The node at a place below this one; the empty place is the node itself.
def at? : Node → Place → Option Node
  | .directory entries, place => Entries.at? entries place
  | node, [] => some node
  | _, _ :: _ => none

theorem at_here (node : Node) : node.at? [] = some node := by
  cases node <;> rfl

def Bare (node : Node) : Prop :=
  ∀ place, place ≠ [] → node.at? place = none

theorem bare_file (content : List UInt8) (mode : Nat) : (Node.file content mode).Bare := by
  intro place below
  cases place with
  | nil => exact absurd rfl below
  | cons name rest => rfl

theorem bare_directory : (Node.directory []).Bare := by
  intro place below
  cases place with
  | nil => exact absurd rfl below
  | cons name rest =>
      cases rest with
      | nil => rfl
      | cons next others => rfl

end Node

theorem lookup_set_entry (name other : String) (node : Node) (entries : Entries) :
    (setEntry name node entries).lookup other = if other = name then some node else entries.lookup other := by
  induction entries with
  | nil =>
      by_cases same : other = name
      · simp [setEntry, same]
      · simp [setEntry, same, List.lookup_cons, beq_eq_false_iff_ne.mpr same]
  | cons entry rest step =>
      obtain ⟨first, old⟩ := entry
      rw [setEntry]
      by_cases here : first = name
      · rw [if_pos here, List.lookup_cons, List.lookup_cons, here]
        by_cases same : other = name
        · simp [same]
        · simp [same, beq_eq_false_iff_ne.mpr same]
      · rw [if_neg here, List.lookup_cons, List.lookup_cons, step]
        by_cases named : other = first
        · simp [named, here]
        · simp [beq_eq_false_iff_ne.mpr named]

namespace Entries

theorem at_cons (entries : Entries) (name : String) (rest : Place) :
    entries.at? (name :: rest) = (entries.lookup name).bind (·.at? rest) := by
  cases rest with
  | nil =>
      rw [Entries.at?]
      cases entries.lookup name with
      | none => rfl
      | some node => rw [Option.bind_some, Node.at_here]
  | cons next others =>
      rw [Entries.at?]
      · cases entries.lookup name with
        | none => rfl
        | some node => cases node <;> rfl
      · simp

theorem put_cons (entries : Entries) (node : Node) (name next : String) (rest : Place) :
    entries.put node (name :: next :: rest) =
      match entries.lookup name with
      | some (.directory inner) => setEntry name (.directory (Entries.put inner node (next :: rest))) entries
      | _ => entries :=
  Entries.put.eq_3 entries node name (next :: rest) (List.cons_ne_nil next rest)

theorem held_below (entries inner : Entries) (first : String) (rest : Place)
    (held : entries.at? (first :: rest) = some (.directory inner)) :
    ∃ children, entries.lookup first = some (.directory children) ∧
      Entries.at? children rest = some (.directory inner) := by
  rw [at_cons] at held
  cases found : entries.lookup first with
  | none =>
      rw [found] at held
      cases held
  | some child =>
      rw [found, Option.bind_some] at held
      cases child with
      | directory children => exact ⟨children, rfl, held⟩
      | file content mode => cases rest <;> cases held
      | link target => cases rest <;> cases held

theorem put_through (entries children : Entries) (first : String) (rest : Place) (node : Node) (deeper : rest ≠ [])
    (held : entries.lookup first = some (.directory children)) :
    entries.put node (first :: rest) = setEntry first (.directory (Entries.put children node rest)) entries := by
  cases rest with
  | nil => exact absurd rfl deeper
  | cons next others => rw [put_cons, held]

theorem put_reaches (entries : Entries) (node : Node) (name : String) (rest : Place) (deeper : rest ≠ []) :
    entries.put node (name :: rest) = entries ∨
      ∃ children, entries.lookup name = some (.directory children) ∧
        entries.put node (name :: rest) = setEntry name (.directory (Entries.put children node rest)) entries := by
  cases rest with
  | nil => exact absurd rfl deeper
  | cons next others =>
      rw [put_cons]
      split
      · next children found => exact .inr ⟨children, found, rfl⟩
      · exact .inl rfl

theorem lookup_put_elsewhere (entries : Entries) (node : Node) (name first : String) (rest : Place) (other : first ≠ name) :
    (entries.put node (name :: rest)).lookup first = entries.lookup first := by
  by_cases here : rest = []
  · rw [here, Entries.put, lookup_set_entry, if_neg other]
  · rcases put_reaches entries node name rest here with same | ⟨children, -, reached⟩
    · rw [same]
    · rw [reached, lookup_set_entry, if_neg other]

theorem at_put_below (entries : Entries) (node : Node) (directory : Place) (name : String) (below : Place)
    (inner : Entries) (held : entries.at? directory = some (.directory inner)) :
    (entries.put node (directory ++ [name])).at? (directory ++ name :: below) = node.at? below := by
  induction directory generalizing entries with
  | nil =>
      rw [List.nil_append, List.nil_append, Entries.put, at_cons, lookup_set_entry, if_pos rfl, Option.bind_some]
  | cons first rest step =>
      obtain ⟨children, found, deeper⟩ := held_below entries inner first rest held
      rw [List.cons_append, List.cons_append, put_through entries children first _ node (by simp) found, at_cons,
        lookup_set_entry, if_pos rfl, Option.bind_some]
      exact step children deeper

theorem outside_put_elsewhere (entries : Entries) (node : Node) (place other : Place) (off : ¬place <+: other) :
    ((entries.put node place).at? other).map Node.outside = (entries.at? other).map Node.outside := by
  induction place generalizing entries other with
  | nil => exact absurd (List.nil_prefix) off
  | cons name rest step =>
      cases other with
      | nil => rw [Entries.at?, Entries.at?]; rfl
      | cons first below =>
          rw [at_cons, at_cons]
          by_cases same : first = name
          · subst same
            have offBelow : ¬rest <+: below := fun within => off (List.cons_prefix_cons.mpr ⟨rfl, within⟩)
            have deeper : rest ≠ [] := fun here => offBelow (here ▸ List.nil_prefix)
            rcases put_reaches entries node first rest deeper with kept | ⟨children, found, reached⟩
            · rw [kept]
            · rw [reached, lookup_set_entry, if_pos rfl, found, Option.bind_some, Option.bind_some]
              exact step children below offBelow
          · rw [lookup_put_elsewhere entries node name first rest same]

end Entries

namespace Node

theorem at_append (node : Node) (place below : Place) :
    node.at? (place ++ below) = (node.at? place).bind (·.at? below) := by
  induction place generalizing node with
  | nil => rw [at_here]; rfl
  | cons name rest step =>
      cases node with
      | file content mode => rfl
      | link target => rfl
      | directory entries =>
          change Entries.at? entries (name :: (rest ++ below)) = (Entries.at? entries (name :: rest)).bind _
          rw [Entries.at_cons, Entries.at_cons]
          cases entries.lookup name with
          | none => rfl
          | some child => exact step child

end Node

namespace Disk

def kindAt (disk : Disk) (place : Place) : Option Kind :=
  (disk.at? place).map Node.kind

def LinkFree (disk : Disk) : Prop :=
  ∀ place, disk.kindAt place ≠ some .link

theorem kind_at_directory (disk : Disk) (place : Place) :
    disk.kindAt place = some .directory ↔ ∃ entries, disk.at? place = some (.directory entries) := by
  unfold kindAt
  cases disk.at? place with
  | none => simp
  | some node => cases node <;> simp [Node.kind]

theorem kind_at_file (disk : Disk) (place : Place) :
    disk.kindAt place = some .file ↔ ∃ content mode, disk.at? place = some (.file content mode) := by
  unfold kindAt
  cases disk.at? place with
  | none => simp
  | some node => cases node <;> simp [Node.kind]

theorem kind_at_top (disk : Disk) : disk.kindAt [] = some .directory :=
  rfl

theorem at_append (disk : Disk) (place below : Place) :
    disk.at? (place ++ below) = (disk.at? place).bind (·.at? below) :=
  Node.at_append (.directory disk.entries) place below

theorem at_entry (disk : Disk) (place : Place) (entries : Entries) (name : String)
    (held : disk.at? place = some (.directory entries)) : disk.at? (place ++ [name]) = entries.lookup name := by
  rw [at_append, held, Option.bind_some]
  rfl

theorem directory_above (disk : Disk) (place below : Place) (proper : below ≠ [])
    (present : disk.kindAt (place ++ below) ≠ none) : disk.kindAt place = some .directory := by
  unfold kindAt at present ⊢
  rw [at_append] at present
  cases held : disk.at? place with
  | none => simp [held] at present
  | some node =>
      rw [held, Option.bind_some] at present
      cases node with
      | directory entries => rfl
      | file content mode => exact absurd (congrArg _ (Node.bare_file content mode below proper)) present
      | link target =>
          cases below with
          | nil => exact absurd rfl proper
          | cons name rest => exact absurd rfl present

theorem nothing_below (disk : Disk) (place below : Place) (absent : disk.kindAt place = none) :
    disk.kindAt (place ++ below) = none := by
  unfold kindAt at absent ⊢
  rw [at_append, Option.map_eq_none_iff.mp absent]
  rfl

theorem file_is_leaf (disk : Disk) (place below : Place) (file : disk.kindAt place = some .file)
    (proper : below ≠ []) : disk.kindAt (place ++ below) = none := by
  cases present : disk.kindAt (place ++ below) with
  | none => rfl
  | some kind =>
      have above := directory_above disk place below proper (by rw [present]; exact nofun)
      exact absurd (file.symm.trans above) (by decide)

def outsideAt (disk : Disk) (place : Place) : Option Node :=
  (disk.at? place).map Node.outside

theorem kind_at_outside (disk : Disk) (place : Place) : disk.kindAt place = (disk.outsideAt place).map Node.kind := by
  rw [kindAt, outsideAt, Option.map_map]
  exact congrArg (Option.map · _) (funext fun node => (Node.kind_outside node).symm)

theorem outside_put_elsewhere (disk : Disk) (node : Node) (place other : Place) (off : ¬place <+: other) :
    (disk.put place node).outsideAt other = disk.outsideAt other :=
  Entries.outside_put_elsewhere disk.entries node place other off

theorem kind_put_elsewhere (disk : Disk) (node : Node) (place other : Place) (off : ¬place <+: other) :
    (disk.put place node).kindAt other = disk.kindAt other := by
  rw [kind_at_outside, kind_at_outside, outside_put_elsewhere disk node place other off]

theorem outside_at_put (disk : Disk) (directory : Place) (name : String) (node : Node) (bare : node.Bare)
    (held : disk.kindAt directory = some .directory) (place : Place) :
    (disk.put (directory ++ [name]) node).outsideAt place =
      if place = directory ++ [name] then some node.outside
      else if directory ++ [name] <+: place then none
      else disk.outsideAt place := by
  obtain ⟨inner, held⟩ := (kind_at_directory disk directory).mp held
  by_cases within : directory ++ [name] <+: place
  · obtain ⟨below, rfl⟩ := within
    have stands : (disk.put (directory ++ [name]) node).at? (directory ++ [name] ++ below) = node.at? below := by
      rw [List.append_assoc]
      exact Entries.at_put_below disk.entries node directory name below inner held
    rw [if_pos (List.prefix_append _ _), outsideAt, stands]
    by_cases here : below = []
    · rw [here, List.append_nil, if_pos rfl, Node.at_here]
      rfl
    · rw [if_neg (fun same => here (List.append_right_eq_self.mp same))]
      exact congrArg (Option.map Node.outside) (bare below here)
  · have off : place ≠ directory ++ [name] := fun same => within ⟨[], by rw [same, List.append_nil]⟩
    rw [if_neg off, if_neg within]
    exact outside_put_elsewhere disk node _ place within

theorem kind_at_put (disk : Disk) (directory : Place) (name : String) (node : Node) (bare : node.Bare)
    (held : disk.kindAt directory = some .directory) (place : Place) :
    (disk.put (directory ++ [name]) node).kindAt place =
      if place = directory ++ [name] then some node.kind
      else if directory ++ [name] <+: place then none
      else disk.kindAt place := by
  rw [kind_at_outside, outside_at_put disk directory name node bare held]
  split
  · exact congrArg some (Node.kind_outside node)
  · split
    · rfl
    · exact (kind_at_outside disk place).symm

-- The places of the tree are finitely many, so this can be tested.
theorem link_free_of_places (disk : Disk) (plain : ∀ place ∈ placesIn disk.entries, disk.kindAt place ≠ some .link) :
    disk.LinkFree := by
  intro place linked
  obtain ⟨node, present, _⟩ := Option.map_eq_some_iff.mp linked
  by_cases top : place = []
  · rw [top, kind_at_top] at linked
    exact absurd linked (by decide)
  · exact plain place (place_listed disk.entries place node top present) linked

structure Grows (files directories : Place → Prop) (disk grown : Disk) : Prop where
  workingDirectory : grown.workingDirectory = disk.workingDirectory
  kind : ∀ place, grown.kindAt place = disk.kindAt place ∨
    (disk.kindAt place = none ∧
      (grown.kindAt place = some .file ∧ files place ∨ grown.kindAt place = some .directory ∧ directories place))

section

variable {files directories : Place → Prop} {disk middle grown : Disk}

theorem grows_refl : Grows files directories disk disk :=
  ⟨rfl, fun _ => .inl rfl⟩

theorem grows_trans (first : Grows files directories disk middle) (second : Grows files directories middle grown) :
    Grows files directories disk grown := by
  refine ⟨second.workingDirectory.trans first.workingDirectory, fun place => ?_⟩
  rcases second.kind place with same | ⟨absent, added⟩
  · rw [same]
    exact first.kind place
  · rcases first.kind place with same | ⟨_, ⟨file, _⟩ | ⟨directory, _⟩⟩
    · exact .inr ⟨same ▸ absent, added⟩
    · exact absurd (file.symm.trans absent) (by decide)
    · exact absurd (directory.symm.trans absent) (by decide)

theorem grows_mono {moreFiles moreDirectories : Place → Prop} (grows : Grows files directories disk grown)
    (filesMore : ∀ place, files place → moreFiles place)
    (directoriesMore : ∀ place, directories place → moreDirectories place) :
    Grows moreFiles moreDirectories disk grown := by
  refine ⟨grows.workingDirectory, fun place => ?_⟩
  rcases grows.kind place with same | ⟨absent, ⟨file, allowed⟩ | ⟨directory, allowed⟩⟩
  · exact .inl same
  · exact .inr ⟨absent, .inl ⟨file, filesMore place allowed⟩⟩
  · exact .inr ⟨absent, .inr ⟨directory, directoriesMore place allowed⟩⟩

theorem grows_keeps (grows : Grows files directories disk grown) (place : Place) (kind : Kind)
    (present : disk.kindAt place = some kind) : grown.kindAt place = some kind := by
  rcases grows.kind place with same | ⟨absent, _⟩
  · rw [same, present]
  · rw [absent] at present
    exact absurd present (by simp)

theorem grows_link_free (grows : Grows files directories disk grown) (linkFree : disk.LinkFree) : grown.LinkFree := by
  intro place linked
  rcases grows.kind place with same | ⟨_, ⟨file, _⟩ | ⟨directory, _⟩⟩
  · exact linkFree place (same ▸ linked)
  · exact absurd (file.symm.trans linked) (by decide)
  · exact absurd (directory.symm.trans linked) (by decide)

theorem grows_origin (grows : Grows files directories disk grown) (path : Path) :
    grown.origin path = disk.origin path := by
  rw [origin, origin, grows.workingDirectory]

end

end Disk

end ScriptSuite.FileSystem
