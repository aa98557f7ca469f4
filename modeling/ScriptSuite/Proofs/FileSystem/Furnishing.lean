import ScriptSuite.Proofs.FileSystem.Following
import ScriptSuite.Proofs.FileSystem.Making

set_option autoImplicit false

namespace ScriptSuite.FileSystem

open ScriptSuite.Path

theorem set_entry_twice (name : String) (first second : Node) (entries : Entries) :
    setEntry name second (setEntry name first entries) = setEntry name second entries := by
  induction entries with
  | nil => exact if_pos rfl
  | cons entry rest step =>
      obtain ⟨other, old⟩ := entry
      rw [setEntry, setEntry]
      by_cases here : other = name
      · rw [if_pos here, if_pos here, setEntry, if_pos rfl]
      · rw [if_neg here, if_neg here, setEntry, if_neg here, step]

theorem set_entry_same (name : String) (node : Node) (entries : Entries) (held : entries.lookup name = some node) :
    setEntry name node entries = entries := by
  induction entries with
  | nil => cases held
  | cons entry rest step =>
      obtain ⟨other, old⟩ := entry
      rw [setEntry]
      by_cases here : other = name
      · rw [here, List.lookup_cons_self, Option.some.injEq] at held
        rw [if_pos here, here, held]
      · rw [List.lookup_cons, beq_eq_false_iff_ne.mpr (Ne.symm here)] at held
        rw [if_neg here, step held]

theorem remove_set_entry (name : String) (node : Node) (entries : Entries) (absent : entries.lookup name = none) :
    removeEntry name (setEntry name node entries) = entries := by
  induction entries with
  | nil => simp [setEntry, removeEntry]
  | cons entry rest step =>
      obtain ⟨other, old⟩ := entry
      have different : other ≠ name := by
        rintro rfl
        rw [List.lookup_cons_self] at absent
        cases absent
      rw [List.lookup_cons, beq_eq_false_iff_ne.mpr different.symm] at absent
      have later := step absent
      rw [removeEntry] at later
      rw [setEntry, if_neg different, removeEntry, List.filter_cons_of_pos (by simpa using different), later]

namespace Entries

theorem remove_cons (entries : Entries) (name next : String) (rest : Place) :
    entries.remove (name :: next :: rest) =
      match entries.lookup name with
      | some (.directory inner) => setEntry name (.directory (Entries.remove inner (next :: rest))) entries
      | _ => entries :=
  Entries.remove.eq_3 entries name (next :: rest) (List.cons_ne_nil next rest)

theorem remove_through (entries children : Entries) (first : String) (rest : Place) (deeper : rest ≠ [])
    (held : entries.lookup first = some (.directory children)) :
    entries.remove (first :: rest) = setEntry first (.directory (Entries.remove children rest)) entries := by
  cases rest with
  | nil => exact absurd rfl deeper
  | cons next others => rw [remove_cons, held]

theorem put_put_below (entries outer inner : Entries) (directory : Place) (name : String) (node : Node) (below : Place)
    (held : entries.at? directory = some (.directory outer)) (proper : below ≠ []) :
    (entries.put (.directory inner) (directory ++ [name])).put node (directory ++ name :: below) =
      entries.put (.directory (Entries.put inner node below)) (directory ++ [name]) := by
  induction directory generalizing entries with
  | nil =>
      rw [List.nil_append, List.nil_append, Entries.put, put_through _ inner name below node proper
        (by rw [lookup_set_entry, if_pos rfl]), set_entry_twice, Entries.put]
  | cons first rest step =>
      obtain ⟨children, found, deeper⟩ := held_below entries outer first rest held
      rw [List.cons_append, List.cons_append, put_through entries children first _ _ (by simp) found,
        put_through _ (Entries.put children (.directory inner) (rest ++ [name])) first _ _ (by simp)
          (by rw [lookup_set_entry, if_pos rfl]), set_entry_twice, step children deeper,
        put_through entries children first _ _ (by simp) found]

theorem remove_put (entries outer : Entries) (directory : Place) (name : String) (node : Node)
    (held : entries.at? directory = some (.directory outer)) (absent : outer.lookup name = none) :
    (entries.put node (directory ++ [name])).remove (directory ++ [name]) = entries := by
  induction directory generalizing entries with
  | nil =>
      cases held
      exact remove_set_entry name node _ absent
  | cons first rest step =>
      obtain ⟨children, found, deeper⟩ := held_below entries outer first rest held
      rw [List.cons_append, put_through entries children first _ _ (by simp) found,
        remove_through _ (Entries.put children node (rest ++ [name])) first _ (by simp)
          (by rw [lookup_set_entry, if_pos rfl]), set_entry_twice, step children deeper,
        set_entry_same first _ entries found]

theorem at_put_elsewhere (entries : Entries) (node : Node) (place other : Place) (off : ¬place <+: other)
    (aside : ¬other <+: place) : (entries.put node place).at? other = entries.at? other := by
  induction place generalizing entries other with
  | nil => exact absurd List.nil_prefix off
  | cons name rest step =>
      cases other with
      | nil => exact absurd List.nil_prefix aside
      | cons first below =>
          rw [at_cons, at_cons]
          by_cases same : first = name
          · subst same
            have offBelow : ¬rest <+: below := fun within => off (List.cons_prefix_cons.mpr ⟨rfl, within⟩)
            have asideBelow : ¬below <+: rest := fun within => aside (List.cons_prefix_cons.mpr ⟨rfl, within⟩)
            have deeper : rest ≠ [] := fun here => offBelow (here ▸ List.nil_prefix)
            rcases put_reaches entries node first rest deeper with kept | ⟨children, found, reached⟩
            · rw [kept]
            · rw [reached, lookup_set_entry, if_pos rfl, found, Option.bind_some, Option.bind_some]
              exact step children below offBelow asideBelow
          · rw [lookup_put_elsewhere entries node name first rest same]

end Entries

namespace Disk

open Place

section

variable {disk : Disk} {directory : Place} {name : String} {outer : Entries}

theorem remove_put (node : Node) (held : disk.at? directory = some (.directory outer)) (absent : outer.lookup name = none) :
    (disk.put (directory ++ [name]) node).remove (directory ++ [name]) = disk := by
  rw [put, remove, Entries.remove_put disk.entries outer directory name node held absent]

theorem put_keeps (node : Node) (held : disk.at? directory = some (.directory outer)) (absent : outer.lookup name = none) :
    Keeps disk (disk.put (directory ++ [name]) node) := by
  have stands : disk.kindAt directory = some .directory := (kind_at_directory disk directory).mpr ⟨outer, held⟩
  have free : disk.kindAt (directory ++ [name]) = none := by
    rw [kindAt, at_entry disk directory outer name held, absent]
    rfl
  have apart : ∀ place, disk.kindAt place ≠ none → ¬directory ++ [name] <+: place := by
    rintro place present ⟨below, rfl⟩
    exact present (nothing_below disk _ below free)
  refine ⟨rfl, fun place isDirectory => ?_, fun place child present plain => ?_⟩
  · have off := apart place (by rw [isDirectory]; exact Option.some_ne_none _)
    exact (kind_put_elsewhere disk node _ place off).trans isDirectory
  · have kind : disk.kindAt place = some child.kind := congrArg (Option.map Node.kind) present
    have off := apart place (by rw [kind]; exact Option.some_ne_none _)
    refine (Entries.at_put_elsewhere disk.entries node _ place off fun above => ?_).trans present
    rcases List.prefix_concat_iff.mp above with same | ⟨below, rfl⟩
    · exact off (same ▸ List.prefix_rfl)
    · by_cases here : below = []
      · rw [here, List.append_nil] at stands
        exact plain (Option.some.inj (kind.symm.trans stands))
      · have isDirectory := directory_above disk place below here (by rw [stands]; exact Option.some_ne_none _)
        exact plain (Option.some.inj (kind.symm.trans isDirectory))

end

end Disk

namespace Node

def Linkless (node : Node) : Prop :=
  ∀ place, (node.at? place).map Node.kind ≠ some .link

theorem file_linkless (content : List UInt8) (mode : Nat) : (Node.file content mode).Linkless := by
  intro place
  cases place <;> simp [Node.at?, Node.kind]

theorem empty_linkless : (Node.directory []).Linkless := by
  intro place
  by_cases top : place = []
  · rw [top, at_here]
    exact fun same => Kind.noConfusion (Option.some.inj same)
  · rw [bare_directory place top]
    exact nofun

theorem linkless_entry (entries : Entries) (name : String) (node : Node) (linkless : (Node.directory entries).Linkless)
    (held : entries.lookup name = some node) : node.Linkless := by
  intro place
  have within := linkless (name :: place)
  rw [Node.at?, Entries.at_cons, held] at within
  exact within

theorem linkless_set_entry (entries : Entries) (name : String) (node : Node) (linkless : (Node.directory entries).Linkless)
    (plain : node.Linkless) : (Node.directory (setEntry name node entries)).Linkless := by
  intro place
  rw [Node.at?]
  cases place with
  | nil => exact fun same => Kind.noConfusion (Option.some.inj same)
  | cons first rest =>
      rw [Entries.at_cons, lookup_set_entry]
      by_cases here : first = name
      · rw [if_pos here]
        exact plain rest
      · rw [if_neg here, ← Entries.at_cons]
        exact linkless (first :: rest)

theorem linkless_put (entries : Entries) (node : Node) (place : Place) (linkless : (Node.directory entries).Linkless)
    (plain : node.Linkless) : (Node.directory (Entries.put entries node place)).Linkless := by
  induction place generalizing entries with
  | nil => exact linkless
  | cons name rest step =>
      cases rest with
      | nil => exact linkless_set_entry entries name node linkless plain
      | cons next others =>
          rw [Entries.put_cons]
          split
          · rename_i inner found
            exact linkless_set_entry entries name _ linkless (step inner (linkless_entry entries name _ linkless found))
          · exact linkless

end Node

namespace Disk

open Place

/-- Where a new directory is made, and the path that leads to it whatever it holds. -/
structure Site (disk : Disk) (root : Path) (directory : Place) (name : String) : Prop where
  anchored : Anchored root
  free : ∃ outer, disk.at? directory = some (.directory outer) ∧ outer.lookup name = none
  located : ∀ inner, (disk.put (directory ++ [name]) (.directory inner)).locate root = .ok (directory ++ [name])

def Furnished (disk : Disk) (place : Place) (made : Disk) : Prop :=
  ∃ inner, made = disk.put place (.directory inner) ∧ (Node.directory inner).Linkless

theorem furnished_fresh (disk : Disk) (place : Place) : disk.Furnished place (disk.put place (.directory [])) :=
  ⟨[], rfl, Node.empty_linkless⟩

section

variable {disk made grown : Disk} {root : Path} {directory : Place} {name : String}

theorem furnished_at (site : disk.Site root directory name) (inner : Entries) (below : Place) :
    (disk.put (directory ++ [name]) (.directory inner)).at? (directory ++ [name] ++ below) =
      (Node.directory inner).at? below := by
  obtain ⟨outer, held, _⟩ := site.free
  rw [List.append_assoc]
  exact Entries.at_put_below disk.entries _ directory name below outer held

theorem furnished_located (site : disk.Site root directory name)
    (furnished : disk.Furnished (directory ++ [name]) made) : made.locate root = .ok (directory ++ [name]) := by
  obtain ⟨inner, rfl, _⟩ := furnished
  exact site.located inner

theorem furnished_put (site : disk.Site root directory name) (furnished : disk.Furnished (directory ++ [name]) made)
    (below : Place) (proper : below ≠ []) (node : Node) (plain : node.Linkless) :
    disk.Furnished (directory ++ [name]) (made.put (directory ++ [name] ++ below) node) := by
  obtain ⟨inner, rfl, linkless⟩ := furnished
  obtain ⟨outer, held, _⟩ := site.free
  refine ⟨Entries.put inner node below, ?_, Node.linkless_put inner node below linkless plain⟩
  rw [List.append_assoc]
  exact congrArg (Disk.mk · _) (Entries.put_put_below disk.entries outer inner directory name node below held proper)

theorem furnished_removed (site : disk.Site root directory name)
    (furnished : disk.Furnished (directory ++ [name]) made) : made.removeTree root = disk := by
  have located := furnished_located site furnished
  obtain ⟨inner, rfl, _⟩ := furnished
  obtain ⟨outer, held, absent⟩ := site.free
  rw [removeTree, located]
  exact remove_put _ held absent

theorem walk_furnished (site : disk.Site root directory name) (furnished : disk.Furnished (directory ++ [name]) made)
    (followLast : Bool) (here names : Place) (named : ∀ other ∈ names, IsName other) (walked : Walk)
    (goes : made.walk followLast (directory ++ [name] ++ here) names = .ok walked) :
    walked = .arrived (directory ++ [name] ++ (here ++ names)) ∨
      ∃ front last slashed, walked = .missing (directory ++ [name] ++ front) last slashed := by
  induction names generalizing here with
  | nil =>
      rw [walk] at goes
      rw [List.append_nil]
      exact .inl (Except.ok.inj goes).symm
  | cons segment rest step =>
      have first := named segment (List.mem_cons_self ..)
      rcases walk_cons_cases followLast _ goes with enters | ⟨target, leads⟩ | ⟨_, slashed, missing⟩
      · rw [walk_enters followLast enters, after_name _ segment first.audible first.notParent, List.append_assoc] at goes
        have deeper := step (here ++ [segment]) (fun other inside => named other (List.mem_cons_of_mem _ inside)) goes
        rwa [List.append_assoc here] at deeper
      · obtain ⟨inner, rfl, linkless⟩ := furnished
        have link := leads.link
        rw [List.append_assoc, furnished_at site] at link
        exact absurd (congrArg (Option.map Node.kind) link) (linkless _)
      · exact .inr ⟨here, segment, slashed, missing⟩

theorem reach_inside (site : disk.Site root directory name) (furnished : disk.Furnished (directory ++ [name]) made)
    (followLast : Bool) (path : Path) (names : Place) (proper : names ≠ [])
    (shape : path.segments = root.segments ++ names) (named : ∀ other ∈ names, IsName other) :
    made.reach followLast path = made.walk followLast (directory ++ [name]) names := by
  have absolute := anchored_extension site.anchored path names shape
  obtain ⟨_, arrived⟩ := (locate_follow root).mp (furnished_located site furnished)
  rw [origin, anchored_absolute site.anchored, if_pos rfl] at arrived
  obtain ⟨remaining, onwards⟩ := follow_append followLast _ root.segments names (.inl proper) arrived
  rw [reach, if_neg (text_nonempty path absolute), origin, absolute, if_pos rfl, shape, onwards, follow]
  split
  · rename_i place target others redirected
    have inside := walk_furnished site furnished followLast [] names named
    rw [List.append_nil] at inside
    rcases inside _ redirected with arrives | ⟨_, _, _, missing⟩
    · cases arrives
    · cases missing
  · rfl

theorem reach_furnished (site : disk.Site root directory name) (furnished : disk.Furnished (directory ++ [name]) made)
    (followLast : Bool) (path : Path) (names : Place) (proper : names ≠ [])
    (shape : path.segments = root.segments ++ names) (named : ∀ other ∈ names, IsName other) (walked : Walk)
    (goes : made.reach followLast path = .ok walked) :
    walked = .arrived (directory ++ [name] ++ names) ∨
      ∃ front last slashed, walked = .missing (directory ++ [name] ++ front) last slashed := by
  have inside := walk_furnished site furnished followLast [] names named walked
  rw [List.append_nil] at inside
  rw [reach_inside site furnished followLast path names proper shape named] at goes
  exact inside goes

theorem create_directory_furnished (site : disk.Site root directory name)
    (furnished : disk.Furnished (directory ++ [name]) made) (path : Path) (names : Place)
    (shape : path.segments = root.segments ++ names) (named : ∀ other ∈ names, IsName other)
    (created : made.createDirectory path = .ok grown) : disk.Furnished (directory ++ [name]) grown := by
  rw [createDirectory] at created
  by_cases proper : names = []
  · have same : path = root := path_of_segments (by rw [shape, proper, List.append_nil])
    obtain ⟨place, reached⟩ := located_reached root (furnished_located site furnished)
    rw [same, reached] at created
    cases created
  · cases reached : made.reach false path with
    | error fault =>
        rw [reached] at created
        cases created
    | ok walked =>
        rw [reached] at created
        rcases reach_furnished site furnished false path names proper shape named walked reached with rfl | inside
        · cases created
        · obtain ⟨front, last, slashed, rfl⟩ := inside
          cases created
          rw [List.append_assoc]
          exact furnished_put site furnished (front ++ [last]) (by simp) _ Node.empty_linkless

theorem create_each_furnished (site : disk.Site root directory name)
    (furnished : disk.Furnished (directory ++ [name]) made) (names : Place) (named : ∀ other ∈ names, IsName other)
    (paths : List Path) (below : ∀ path ∈ paths, Below root names path) (created : made.createEach paths = .ok grown) :
    disk.Furnished (directory ++ [name]) grown := by
  induction paths generalizing made with
  | nil =>
      cases created
      exact furnished
  | cons path rest step =>
      have later : ∀ other ∈ rest, Below root names other := fun other inside =>
        below other (List.mem_cons_of_mem _ inside)
      rw [createEach] at created
      cases first : made.createDirectory path with
      | ok middle =>
          rw [first] at created
          obtain ⟨front, within, shape⟩ := below path (List.mem_cons_self ..)
          refine step (create_directory_furnished site furnished path front shape ?_ first) later created
          exact fun other inside => named other (within.subset inside)
      | error fault =>
          rw [first] at created
          dsimp only at created
          split at created
          · exact step furnished later created
          · cases created

theorem create_directories_furnished (site : disk.Site root directory name)
    (furnished : disk.Furnished (directory ++ [name]) made) (path : Path) (names : Place)
    (shape : path.segments = root.segments ++ names) (named : ∀ other ∈ names, IsName other)
    (created : made.createDirectories path = .ok grown) : disk.Furnished (directory ++ [name]) grown := by
  have present : made.createDirectory root ≠ .error .notFound := by
    obtain ⟨place, reached⟩ := located_reached root (furnished_located site furnished)
    rw [createDirectory, reached]
    exact fun same => by cases same
  rw [createDirectories, if_neg (text_nonempty path (anchored_extension site.anchored path names shape))] at created
  refine create_each_furnished site furnished names named _ (fun other member => ?_) created
  have below := missing_ancestors_below site.anchored present _ path names [] shape named other member
  exact below.resolve_left List.not_mem_nil

theorem write_file_furnished (site : disk.Site root directory name)
    (furnished : disk.Furnished (directory ++ [name]) made) (path : Path) (names : Place) (proper : names ≠ [])
    (shape : path.segments = root.segments ++ names) (named : ∀ other ∈ names, IsName other) (content : List UInt8)
    (mode : Nat) (written : made.writeFile path content mode = .ok grown) :
    disk.Furnished (directory ++ [name]) grown := by
  rw [writeFile] at written
  cases reached : made.reach true path with
  | error fault =>
      rw [reached] at written
      cases written
  | ok walked =>
      rw [reached] at written
      rcases reach_furnished site furnished true path names proper shape named walked reached with rfl | inside
      · simp only [bind, Except.bind] at written
        split at written
        · cases written
          exact furnished_put site furnished names proper _ (Node.file_linkless content _)
        · cases written
        · cases written
      · obtain ⟨front, last, slashed, rfl⟩ := inside
        cases slashed with
        | true => cases written
        | false =>
            cases written
            rw [List.append_assoc]
            exact furnished_put site furnished (front ++ [last]) (by simp) _ (Node.file_linkless content mode)

theorem copy_file_furnished (site : disk.Site root directory name)
    (furnished : disk.Furnished (directory ++ [name]) made) (source target : Path) (names : Place) (proper : names ≠ [])
    (shape : target.segments = root.segments ++ names) (named : ∀ other ∈ names, IsName other)
    (copied : made.copyFile source target = .ok grown) : disk.Furnished (directory ++ [name]) grown := by
  rw [copyFile] at copied
  cases read : made.node source with
  | error fault =>
      rw [read] at copied
      cases copied
  | ok node =>
      rw [read] at copied
      cases node with
      | directory entries => cases copied
      | link other => cases copied
      | file content mode =>
          simp only [bind, Except.bind] at copied
          cases written : made.writeFile target content mode with
          | error fault => simp [written] at copied
          | ok middle =>
              have first := write_file_furnished site furnished target names proper shape named content mode written
              rw [written] at copied
              cases located : middle.locate target with
              | error fault => simp [located] at copied
              | ok place =>
                  simp only [located, Except.ok.injEq] at copied
                  subst copied
                  have reached := (locate_reach target).mp located
                  rcases reach_furnished site first true target names proper shape named _ reached with arrives | inside
                  · rw [Walk.arrived.inj arrives]
                    exact furnished_put site first names proper _ (Node.file_linkless content mode)
                  · obtain ⟨_, _, _, missing⟩ := inside
                    cases missing

end

section

variable {disk : Disk} {here there : Place}

theorem walk_slashed (front : List String) (walked : Walk) (goes : disk.walk true here (front ++ [""]) = .ok walked) :
    (∃ place, walked = .arrived place ∧ disk.walk true here front = .ok (.arrived place)) ∨
      (∃ place target others, walked = .redirected place target (others ++ [""]) ∧
        disk.walk true here front = .ok (.redirected place target others)) ∨
      ∃ place last slashed, walked = .missing place last slashed := by
  induction front generalizing here with
  | nil =>
      rcases walk_cons_cases true _ goes with enters | ⟨target, leads⟩ | ⟨lacks, _⟩
      · rw [List.nil_append, walk_enters true enters, after_silent here "" (by decide), walk] at goes
        exact .inl ⟨here, (Except.ok.inj goes).symm, by rw [walk]⟩
      · exact absurd leads.audible (by decide)
      · exact absurd lacks.audible (by decide)
  | cons segment rest step =>
      rw [List.cons_append] at goes
      rcases walk_cons_cases true _ goes with enters | ⟨target, leads⟩ | ⟨_, slashed, missing⟩
      · rw [walk_enters true enters] at goes ⊢
        exact step goes
      · rw [walk_leads true leads, Bool.not_true, Bool.and_false, if_neg Bool.false_ne_true] at goes
        rw [walk_leads true leads, Bool.not_true, Bool.and_false, if_neg Bool.false_ne_true]
        exact .inr (.inl ⟨here, target, rest, (Except.ok.inj goes).symm, rfl⟩)
      · exact .inr (.inr ⟨_, _, _, missing⟩)

theorem follow_slashed (budget : Nat) (front : List String)
    (arrived : disk.follow true budget here (front ++ [""]) = .ok (.arrived there)) :
    disk.follow true budget here front = .ok (.arrived there) := by
  induction budget generalizing here front with
  | zero => cases arrived
  | succ budget step =>
      rw [follow] at arrived ⊢
      split at arrived
      · rename_i place target others redirected
        rcases walk_slashed front _ redirected with ⟨_, arrives, _⟩ | ⟨_, _, shorter, same, leads⟩ | ⟨_, _, _, missing⟩
        · cases arrives
        · cases same
          rw [leads]
          dsimp only at arrived ⊢
          rw [← List.append_assoc] at arrived
          exact step _ arrived
        · cases missing
      · rcases walk_slashed front _ arrived with ⟨_, same, arrives⟩ | ⟨_, _, _, leads, _⟩ | ⟨_, _, _, missing⟩
        · cases same
          rw [arrives]
        · cases leads
        · cases missing

end

theorem join_reaches (disk : Disk) (above : Path) (name : String) (directory : Place) (named : IsName name)
    (located : disk.locate above = .ok directory) :
    ∃ remaining, disk.reach true (above.join ⟨name⟩) = disk.follow true (remaining + 1) directory [name] := by
  have relative := name_relative name named
  obtain ⟨nonempty, arrived⟩ := (locate_follow above).mp located
  rw [reach, if_neg (join_nonempty above ⟨name⟩ relative nonempty), origin_join above ⟨name⟩ relative nonempty,
    join_segments above ⟨name⟩ relative nonempty, name_segments name named]
  by_cases slash : above.text.toList.getLast? = some '/'
  · rw [if_pos slash]
    rw [slash_end_segments above slash] at arrived
    exact follow_append true _ _ [name] (.inr rfl) (follow_slashed _ _ arrived)
  · rw [if_neg slash]
    exact follow_append true _ _ [name] (.inr rfl) arrived

theorem join_located (disk : Disk) (above : Path) (name : String) (directory : Place) (named : IsName name)
    (located : disk.locate above = .ok directory) (enters : disk.Enters directory name) :
    disk.locate (above.join ⟨name⟩) = .ok (directory ++ [name]) := by
  obtain ⟨remaining, reached⟩ := join_reaches disk above name directory named located
  rw [follow, walk_enters true enters, after_name _ name named.audible named.notParent, walk] at reached
  exact (locate_reach _).mpr reached

theorem new_site (disk : Disk) (parent : Path) (directory : Place) (entries : Entries) (name : String)
    (located : disk.locate (disk.absolute parent) = .ok directory) (held : disk.at? directory = some (.directory entries))
    (new : entries.lookup name = none) (named : IsName name) :
    disk.Site ((disk.absolute parent).join ⟨name⟩) directory name := by
  refine ⟨join_anchored _ name (absolute_is_absolute disk parent) named, ⟨entries, held, new⟩, fun inner => ?_⟩
  have keeps := put_keeps (.directory inner) held new
  refine join_located _ _ name directory named (keeps_locate keeps _ located)
    ⟨keeps.directory directory ((kind_at_directory disk directory).mpr ⟨entries, held⟩), fun _ _ => ?_⟩
  have stands := Entries.at_put_below disk.entries (.directory inner) directory name [] entries held
  exact ⟨_, stands.trans (Node.at_here _), fun _ => Node.noConfusion⟩

theorem create_temporary_site {naming : Naming} (lawful : naming.Lawful) (disk made : Disk) (parent root : Path)
    (stem : String) (unslashed : '/' ∉ stem.toList) (long : 2 < stem.toList.length)
    (created : disk.createTemporary naming parent stem = .ok (made, root)) :
    ∃ directory name, IsName name ∧ disk.locate (disk.absolute parent) = .ok directory ∧
      root = (disk.absolute parent).join ⟨name⟩ ∧ disk.Site root directory name ∧
      made = disk.put (directory ++ [name]) (.directory []) := by
  obtain ⟨directory, entries, name, located, held, new, named, rfl, rfl⟩ :=
    create_temporary_made lawful disk made parent root stem unslashed long created
  exact ⟨directory, name, named, located, rfl, new_site disk parent directory entries name located held new named, rfl⟩

section

variable {disk made : Disk}

theorem create_each_after (paths : List Path) (created : disk.createEach paths = .ok made) :
    made = disk.afterEach paths := by
  induction paths generalizing disk with
  | nil => exact (Except.ok.inj created).symm
  | cons path rest step =>
      rw [createEach] at created
      rw [afterEach]
      cases first : disk.createDirectory path with
      | ok middle =>
          rw [first] at created
          exact step created
      | error fault =>
          rw [first] at created
          dsimp only at created ⊢
          split at created
          · rename_i stands
            rw [if_pos stands]
            exact step created
          · cases created

theorem create_directories_after (path : Path) (created : disk.createDirectories path = .ok made) :
    made = disk.afterDirectories path := by
  rw [createDirectories] at created
  rw [afterDirectories]
  by_cases empty : path.text = ""
  · rw [if_pos empty] at created ⊢
    exact (Except.ok.inj created).symm
  · rw [if_neg empty] at created ⊢
    exact create_each_after _ created

theorem create_directory_stays (path : Path) (created : disk.createDirectory path = .ok made) :
    made.workingDirectory = disk.workingDirectory := by
  rw [createDirectory] at created
  cases reached : disk.reach false path with
  | error fault =>
      rw [reached] at created
      cases created
  | ok walked =>
      rw [reached] at created
      cases walked with
      | arrived place => cases created
      | redirected directory target rest => cases created
      | missing directory name slashed =>
          cases created
          rfl

theorem after_each_stays (paths : List Path) : (disk.afterEach paths).workingDirectory = disk.workingDirectory := by
  induction paths generalizing disk with
  | nil => rfl
  | cons path rest step =>
      rw [afterEach]
      cases first : disk.createDirectory path with
      | ok middle => exact step.trans (create_directory_stays path first)
      | error fault =>
          dsimp only
          split
          · exact step
          · rfl

theorem after_directories_stays (disk : Disk) (path : Path) :
    (disk.afterDirectories path).workingDirectory = disk.workingDirectory := by
  rw [afterDirectories]
  split
  · rfl
  · exact after_each_stays _

theorem after_directories_present (path : Path) (stands : disk.isDirectory path = true) :
    disk.afterDirectories path = disk := by
  rw [afterDirectories]
  split
  · rfl
  · have taken : disk.createDirectory path = .error .alreadyExists := by
      rw [isDirectory, node] at stands
      cases located : disk.locate path with
      | error fault => simp [located, bind, Except.bind] at stands
      | ok place =>
          obtain ⟨last, reached⟩ := located_reached path located
          rw [createDirectory, reached]
          rfl
    have alone : ∀ fuel, disk.missingAncestors fuel path [] = [path] := by
      intro fuel
      cases fuel with
      | zero => rfl
      | succ fuel => rw [missingAncestors, taken]
    rw [alone, afterEach, taken]
    dsimp only
    rw [if_pos stands, afterEach]

end

end Disk

end ScriptSuite.FileSystem
