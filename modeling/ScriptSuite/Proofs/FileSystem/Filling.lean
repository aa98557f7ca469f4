import ScriptSuite.Proofs.FileSystem.Furnishing
import ScriptSuite.Proofs.FileSystem.Standing

set_option autoImplicit false

namespace ScriptSuite.FileSystem.Disk

open ScriptSuite.Path Place

section

variable {disk : Disk}

theorem outside_directory (place : Place) (stands : disk.kindAt place = some .directory) :
    disk.outsideAt place = some (.directory []) := by
  obtain ⟨entries, held⟩ := (kind_at_directory disk place).mp stands
  rw [outsideAt, held]
  rfl

theorem outside_file (place : Place) (content : List UInt8) (mode : Nat) :
    disk.outsideAt place = some (.file content mode) ↔ disk.at? place = some (.file content mode) := by
  rw [outsideAt]
  cases disk.at? place with
  | none => simp
  | some node => cases node <;> simp [Node.outside]

theorem directories_above (place front : Place) (within : front <+: place) (stands : disk.kindAt place = some .directory) :
    disk.kindAt front = some .directory := by
  obtain ⟨below, rfl⟩ := within
  by_cases here : below = []
  · rwa [here, List.append_nil] at stands
  · exact directory_above disk front below here (by rw [stands]; exact Option.some_ne_none _)

theorem walk_present (followLast : Bool) (here names : Place) (node : Node) (named : ∀ name ∈ names, IsName name)
    (present : disk.at? (here ++ names) = some node) (plain : node.kind ≠ .link) :
    disk.walk followLast here names = .ok (.arrived (here ++ names)) := by
  induction names generalizing here with
  | nil => rw [walk, List.append_nil]
  | cons name rest step =>
      have first := named name (List.mem_cons_self ..)
      have kind : disk.kindAt (here ++ name :: rest) = some node.kind := congrArg (Option.map Node.kind) present
      have stands := directory_above disk here (name :: rest) (List.cons_ne_nil name rest)
        (by rw [kind]; exact Option.some_ne_none _)
      rw [List.append_cons] at present kind ⊢
      have enters : disk.Enters here name := by
        refine ⟨stands, fun _ _ => ?_⟩
        by_cases last : rest = []
        · rw [last, List.append_nil] at present
          refine ⟨node, present, ?_⟩
          rintro target rfl
          exact plain rfl
        · have inner := directory_above disk (here ++ [name]) rest last (by rw [kind]; exact Option.some_ne_none _)
          obtain ⟨entries, held⟩ := (kind_at_directory disk _).mp inner
          exact ⟨_, held, fun _ => Node.noConfusion⟩
      rw [walk_enters followLast enters, after_name here name first.audible first.notParent]
      exact step (here ++ [name]) (fun other inside => named other (List.mem_cons_of_mem _ inside)) present

theorem walk_absent (followLast : Bool) (here front rest : Place) (last : String)
    (named : ∀ name ∈ front ++ [last], IsName name) (stands : disk.kindAt (here ++ front) = some .directory)
    (absent : disk.kindAt (here ++ (front ++ [last])) = none) :
    disk.walk followLast here (front ++ last :: rest) =
      if rest.all (· == "") then .ok (.missing (here ++ front) last (!rest.isEmpty)) else .error .notFound := by
  obtain ⟨entries, held⟩ := (kind_at_directory disk _).mp stands
  have arrived := walk_present true here front _ (fun name inside => named name (List.mem_append_left _ inside)) held
    (by simp [Node.kind])
  have lastNamed := named last (List.mem_append_right _ (List.mem_singleton_self _))
  rw [← List.append_assoc] at absent
  rw [walk_arrived_append followLast front (last :: rest) arrived]
  exact walk_lacks last rest ⟨stands, lastNamed.audible, lastNamed.notParent, Option.map_eq_none_iff.mp absent⟩

theorem locate_place (place : Place) (node : Node) (named : ∀ name ∈ place, IsName name)
    (present : disk.at? place = some node) (plain : node.kind ≠ .link) : disk.locate (pathOf place) = .ok place := by
  refine (locate_reach _).mpr ?_
  rw [reach, if_neg (text_nonempty _ (path_of_absolute place)), origin, path_of_absolute, if_pos rfl,
    path_of_segments_here place named, follow]
  have top : disk.Enters [] "" := ⟨kind_at_top disk, fun audible => absurd audible (by decide)⟩
  rw [walk_enters true top, after_silent [] "" (by decide)]
  by_cases here : place = []
  · rw [if_pos here, walk_enters true top, after_silent [] "" (by decide), walk, here]
  · rw [if_neg here, walk_present true [] place node named present plain]
    rfl

end

section

variable {disk made : Disk} {root : Path} {directory : Place} {name : String}

theorem furnished_plain (site : disk.Site root directory name) (furnished : disk.Furnished (directory ++ [name]) made)
    (below : Place) : made.kindAt (directory ++ [name] ++ below) ≠ some .link := by
  obtain ⟨inner, rfl, linkless⟩ := furnished
  rw [kindAt, furnished_at site]
  exact linkless below

theorem furnished_stands (site : disk.Site root directory name) (furnished : disk.Furnished (directory ++ [name]) made) :
    made.kindAt (directory ++ [name]) = some .directory := by
  obtain ⟨inner, rfl, _⟩ := furnished
  have held := furnished_at site inner []
  rw [List.append_nil, Node.at_here] at held
  exact (kind_at_directory _ _).mpr ⟨inner, held⟩

theorem furnished_keeps (site : disk.Site root directory name) (furnished : disk.Furnished (directory ++ [name]) made) :
    Keeps disk made := by
  obtain ⟨inner, rfl, _⟩ := furnished
  obtain ⟨outer, held, absent⟩ := site.free
  exact put_keeps _ held absent

theorem locate_inside (site : disk.Site root directory name) (furnished : disk.Furnished (directory ++ [name]) made)
    (path : Path) (names : Place) (node : Node) (shape : path.segments = root.segments ++ names)
    (named : ∀ other ∈ names, IsName other) (present : made.at? (directory ++ [name] ++ names) = some node) :
    made.locate path = .ok (directory ++ [name] ++ names) := by
  by_cases top : names = []
  · have same : path = root := path_of_segments (by rw [shape, top, List.append_nil])
    rw [same, top, List.append_nil]
    exact furnished_located site furnished
  · refine (locate_reach path).mpr ?_
    rw [reach_inside site furnished true path names top shape named]
    refine walk_present true _ names node named present fun link => ?_
    have plain := furnished_plain site furnished names
    rw [kindAt, present] at plain
    exact plain (congrArg some link)

theorem put_inside (site : disk.Site root directory name) (furnished : disk.Furnished (directory ++ [name]) made)
    (front : Place) (last : String) (node : Node) (bare : node.Bare) (linkless : node.Linkless)
    (stands : made.kindAt (directory ++ [name] ++ front) = some .directory)
    (free : made.kindAt (directory ++ [name] ++ (front ++ [last])) ≠ some .directory) :
    disk.Furnished (directory ++ [name]) (made.put (directory ++ [name] ++ (front ++ [last])) node) ∧
      ∀ place, (made.put (directory ++ [name] ++ (front ++ [last])) node).outsideAt (directory ++ [name] ++ place) =
        if place = front ++ [last] then some node.outside else made.outsideAt (directory ++ [name] ++ place) := by
  refine ⟨furnished_put site furnished (front ++ [last]) (by simp) node linkless, fun place => ?_⟩
  generalize directory ++ [name] = seat at stands free ⊢
  rw [← List.append_assoc] at free ⊢
  rw [outside_at_put made (seat ++ front) last node bare stands]
  by_cases here : place = front ++ [last]
  · rw [if_pos here, if_pos (by rw [here, List.append_assoc])]
  · rw [if_neg here, if_neg fun same => here (List.append_cancel_left (same.trans (List.append_assoc ..)))]
    split
    · rename_i within
      obtain ⟨below, same⟩ := within
      cases shown : made.outsideAt (seat ++ place) with
      | none => rfl
      | some other =>
          refine absurd (directory_above made (seat ++ front ++ [last]) below ?_ ?_) free
          · rintro rfl
            rw [List.append_nil, List.append_assoc] at same
            exact here (List.append_cancel_left same).symm
          · rw [same, kind_at_outside, shown]
            exact Option.some_ne_none _
    · rfl

inductive Descends (root : Path) : Place → Place → List Path → Prop where
  | here (front : Place) : Descends root front [] []
  | down {front rest : Place} {next : String} {path : Path} {paths : List Path}
      (spelled : path.segments = root.segments ++ (front ++ [next])) (further : Descends root (front ++ [next]) rest paths) :
      Descends root front (next :: rest) (path :: paths)

theorem descends_concat {front rest : Place} {last : String} {path : Path} {paths : List Path}
    (descends : Descends root front rest paths) (spelled : path.segments = root.segments ++ (front ++ (rest ++ [last]))) :
    Descends root front (rest ++ [last]) (paths ++ [path]) := by
  induction descends with
  | here front => exact .down spelled (.here _)
  | down first further step =>
      refine .down first (step ?_)
      rw [spelled]
      simp

theorem create_directory_missing (site : disk.Site root directory name)
    (furnished : disk.Furnished (directory ++ [name]) made) (path : Path) (front rest : Place) (next : String)
    (shape : path.segments = root.segments ++ (front ++ next :: rest)) (named : ∀ other ∈ front ++ next :: rest, IsName other)
    (stands : made.kindAt (directory ++ [name] ++ front) = some .directory)
    (absent : made.kindAt (directory ++ [name] ++ (front ++ [next])) = none) :
    made.createDirectory path =
      if rest = [] then .ok (made.put (directory ++ [name] ++ (front ++ [next])) (.directory [])) else .error .notFound := by
  have here : ∀ other ∈ front ++ [next], IsName other := fun other inside => named other (by
    rw [List.append_cons]
    exact List.mem_append_left _ inside)
  rw [createDirectory, reach_inside site furnished false path _ (by simp) shape named,
    walk_absent false _ front rest next here stands absent]
  cases rest with
  | nil =>
      rw [if_pos rfl, ← List.append_assoc]
      rfl
  | cons second others =>
      have secondNamed := named second (by simp)
      have loud : (second :: others).all (· == "") = false := by simp [name_nonempty second secondNamed]
      rw [loud, if_neg Bool.false_ne_true, if_neg (List.cons_ne_nil _ _)]
      rfl

theorem create_directory_present (site : disk.Site root directory name)
    (furnished : disk.Furnished (directory ++ [name]) made) (path : Path) (names : Place)
    (shape : path.segments = root.segments ++ names) (named : ∀ other ∈ names, IsName other)
    (stands : made.kindAt (directory ++ [name] ++ names) = some .directory) :
    made.createDirectory path = .error .alreadyExists ∧ made.isDirectory path = true := by
  obtain ⟨entries, held⟩ := (kind_at_directory made _).mp stands
  have located := locate_inside site furnished path names _ shape named held
  refine ⟨?_, (is_directory_iff path).mpr ⟨_, located, stands⟩⟩
  obtain ⟨place, reached⟩ := located_reached path located
  rw [createDirectory, reached]
  rfl

theorem missing_ancestors_inside (site : disk.Site root directory name)
    (furnished : disk.Furnished (directory ++ [name]) made) (fuel : Nat) (path : Path) (front rest : Place) (next : String)
    (found : List Path) (enough : rest.length ≤ fuel) (shape : path.segments = root.segments ++ (front ++ next :: rest))
    (named : ∀ other ∈ front ++ next :: rest, IsName other)
    (stands : made.kindAt (directory ++ [name] ++ front) = some .directory)
    (absent : made.kindAt (directory ++ [name] ++ (front ++ [next])) = none) :
    ∃ paths, made.missingAncestors fuel path found = paths ++ found ∧ Descends root front (next :: rest) paths := by
  induction rest using List.reverseRecOn generalizing fuel path found with
  | nil =>
      have created := create_directory_missing site furnished path front [] next shape named stands absent
      rw [if_pos rfl] at created
      refine ⟨[path], ?_, .down shape (.here _)⟩
      cases fuel with
      | zero => rfl
      | succ fuel => rw [missingAncestors, created]; rfl
  | append_singleton before last step =>
      have created := create_directory_missing site furnished path front (before ++ [last]) next shape named stands absent
      rw [if_neg (by simp)] at created
      have within : front ++ next :: (before ++ [last]) = front ++ next :: before ++ [last] := by simp
      rw [within] at shape named
      obtain ⟨parent, up, parentShape⟩ := anchored_parent site.anchored path (front ++ next :: before) last shape named
      have parentText := text_nonempty parent (anchored_extension site.anchored parent _ parentShape)
      cases fuel with
      | zero => simp at enough
      | succ fuel =>
          obtain ⟨paths, made, descends⟩ := step fuel parent (path :: found) (by simp at enough; omega) parentShape
            fun other inside => named other (List.mem_append_left _ inside)
          refine ⟨paths ++ [path], ?_, descends_concat descends ?_⟩
          · rw [missingAncestors, created]
            dsimp only
            rw [up]
            dsimp only
            rw [if_neg parentText, made, List.append_assoc]
            rfl
          · rw [shape]
            simp

theorem create_each_inside {front rest : Place} {paths : List Path} (site : disk.Site root directory name)
    (furnished : disk.Furnished (directory ++ [name]) made) (descends : Descends root front rest paths)
    (named : ∀ other ∈ front ++ rest, IsName other)
    (stands : made.kindAt (directory ++ [name] ++ front) = some .directory)
    (absent : ∀ next others, rest = next :: others → made.kindAt (directory ++ [name] ++ (front ++ [next])) = none) :
    ∃ grown, made.createEach paths = .ok grown ∧ disk.Furnished (directory ++ [name]) grown ∧
      ∀ place, grown.outsideAt (directory ++ [name] ++ place) =
        if place <+: front ++ rest then some (.directory []) else made.outsideAt (directory ++ [name] ++ place) := by
  induction descends generalizing made with
  | here front =>
      refine ⟨made, rfl, furnished, fun place => ?_⟩
      rw [List.append_nil]
      split
      · rename_i within
        exact outside_directory _ (directories_above _ _ ((List.prefix_append_right_inj _).mpr within) stands)
      · rfl
  | @down front rest next path paths spelled further step =>
      have new := absent next rest rfl
      have created := create_directory_missing site furnished path front [] next spelled
        (fun other inside => named other (by
          rw [List.append_cons]
          exact List.mem_append_left _ inside)) stands new
      rw [if_pos rfl] at created
      obtain ⟨holds, shows⟩ := put_inside site furnished front next (.directory []) Node.bare_directory Node.empty_linkless
        stands (by rw [new]; exact nofun)
      generalize made.put (directory ++ [name] ++ (front ++ [next])) (.directory []) = middle at created holds shows
      have middleStands : middle.kindAt (directory ++ [name] ++ (front ++ [next])) = some .directory := by
        rw [kind_at_outside, shows, if_pos rfl]
        rfl
      have middleAbsent : ∀ second others, rest = second :: others →
          middle.kindAt (directory ++ [name] ++ (front ++ [next] ++ [second])) = none := by
        intro second others _
        rw [kind_at_outside, shows, if_neg (by simp), ← kind_at_outside, ← List.append_assoc]
        exact nothing_below made _ [second] new
      obtain ⟨grown, made, grownFurnished, grownShows⟩ := step holds (by rwa [← List.append_cons]) middleStands middleAbsent
      refine ⟨grown, by rw [createEach, created]; exact made, grownFurnished, fun place => ?_⟩
      rw [grownShows, shows, ← List.append_cons]
      split
      · rfl
      · rename_i outside
        rw [if_neg]
        rintro rfl
        exact outside ⟨rest, by simp⟩

theorem standing_split (here names : Place) (stands : made.kindAt here = some .directory)
    (free : ∀ front, front <+: names → made.kindAt (here ++ front) = none ∨ made.kindAt (here ++ front) = some .directory) :
    ∃ front rest, names = front ++ rest ∧ made.kindAt (here ++ front) = some .directory ∧
      ∀ next others, rest = next :: others → made.kindAt (here ++ (front ++ [next])) = none := by
  induction names using List.reverseRecOn with
  | nil => exact ⟨[], [], rfl, by rwa [List.append_nil], nofun⟩
  | append_singleton before last step =>
      obtain ⟨front, rest, rfl, frontStands, absent⟩ := step fun front within =>
        free front (within.trans (List.prefix_append _ _))
      cases rest with
      | nil =>
          rw [List.append_nil] at free ⊢
          rcases free (front ++ [last]) List.prefix_rfl with missing | directory
          · refine ⟨front, [last], rfl, frontStands, fun next others same => ?_⟩
            obtain ⟨rfl, _⟩ := List.cons.inj same
            exact missing
          · exact ⟨front ++ [last], [], (List.append_nil _).symm, directory, nofun⟩
      | cons next others =>
          refine ⟨front, next :: others ++ [last], by simp, frontStands, fun second more same => ?_⟩
          obtain ⟨rfl, _⟩ := List.cons.inj same
          exact absent next others rfl

theorem segments_length (path : Path) : path.segments.length ≤ path.text.length + 1 := by
  have pieces : ∀ text : List Char, (splitSlashes text).length ≤ text.length + 1 := by
    intro text
    induction text with
    | nil => simp [splitSlashes]
    | cons c rest step =>
        rw [splitSlashes]
        split
        · simpa using step
        · split
          · rename_i split
            rw [split] at step
            simpa using Nat.le_succ_of_le step
          · simp
  rw [segments, List.length_map]
  exact pieces path.text.toList

theorem create_directories_inside (site : disk.Site root directory name)
    (furnished : disk.Furnished (directory ++ [name]) made) (path : Path) (names : Place)
    (shape : path.segments = root.segments ++ names) (named : ∀ other ∈ names, IsName other)
    (free : ∀ front, front <+: names → made.kindAt (directory ++ [name] ++ front) ≠ some .file) :
    ∃ grown, made.createDirectories path = .ok grown ∧ disk.Furnished (directory ++ [name]) grown ∧
      ∀ place, grown.outsideAt (directory ++ [name] ++ place) =
        if place <+: names then some (.directory []) else made.outsideAt (directory ++ [name] ++ place) := by
  have unobstructed : ∀ front, front <+: names → made.kindAt (directory ++ [name] ++ front) = none ∨
      made.kindAt (directory ++ [name] ++ front) = some .directory := by
    intro front within
    cases kind : made.kindAt (directory ++ [name] ++ front) with
    | none => exact .inl rfl
    | some found =>
        cases found with
        | directory => exact .inr rfl
        | file => exact absurd kind (free front within)
        | link => exact absurd kind (furnished_plain site furnished front)
  obtain ⟨front, rest, rfl, stands, absent⟩ := standing_split _ names (furnished_stands site furnished) unobstructed
  rw [createDirectories, if_neg (text_nonempty path (anchored_extension site.anchored path _ shape))]
  cases rest with
  | nil =>
      obtain ⟨taken, isDirectory⟩ := create_directory_present site furnished path (front ++ []) shape named
        (by rwa [List.append_nil])
      have alone : made.missingAncestors path.text.length path [] = [path] := by
        cases path.text.length with
        | zero => rfl
        | succ fuel => rw [missingAncestors, taken]
      refine ⟨made, ?_, furnished, fun place => ?_⟩
      · rw [alone, createEach, taken]
        dsimp only
        rw [if_pos isDirectory, createEach]
      · rw [List.append_nil]
        split
        · rename_i within
          exact outside_directory _ (directories_above _ _ ((List.prefix_append_right_inj _).mpr within) stands)
        · rfl
  | cons next others =>
      have short : others.length ≤ path.text.length := by
        have bound := segments_length path
        rw [shape] at bound
        simp only [List.length_append, List.length_cons] at bound
        omega
      obtain ⟨paths, made, descends⟩ := missing_ancestors_inside site furnished path.text.length path front others next []
        short shape named stands (absent next others rfl)
      rw [made, List.append_nil]
      exact create_each_inside site furnished descends named stands absent

theorem write_file_inside (site : disk.Site root directory name)
    (furnished : disk.Furnished (directory ++ [name]) made) (path : Path) (front : Place) (last : String)
    (shape : path.segments = root.segments ++ (front ++ [last])) (named : ∀ other ∈ front ++ [last], IsName other)
    (stands : made.kindAt (directory ++ [name] ++ front) = some .directory)
    (free : made.kindAt (directory ++ [name] ++ (front ++ [last])) ≠ some .directory) (content : List UInt8) (mode : Nat) :
    ∃ written, made.writeFile path content mode =
      .ok (made.put (directory ++ [name] ++ (front ++ [last])) (.file content written)) := by
  rw [writeFile, reach_inside site furnished true path _ (by simp) shape named]
  cases held : made.at? (directory ++ [name] ++ (front ++ [last])) with
  | none =>
      rw [walk_absent true _ front [] last named stands (by rw [kindAt, held]; rfl)]
      refine ⟨mode, ?_⟩
      rw [← List.append_assoc]
      rfl
  | some node =>
      have kind : made.kindAt (directory ++ [name] ++ (front ++ [last])) = some node.kind := by
        rw [kindAt, held]
        rfl
      cases node with
      | directory entries => exact absurd kind free
      | link target => exact absurd kind (furnished_plain site furnished _)
      | file old oldMode =>
          rw [walk_present true _ _ _ named held (by simp [Node.kind])]
          refine ⟨oldMode, ?_⟩
          simp only [bind, Except.bind]
          rw [held]

theorem copy_file_inside (site : disk.Site root directory name)
    (furnished : disk.Furnished (directory ++ [name]) made) (source target : Path) (front : Place) (last : String)
    (shape : target.segments = root.segments ++ (front ++ [last])) (named : ∀ other ∈ front ++ [last], IsName other)
    (stands : made.kindAt (directory ++ [name] ++ front) = some .directory)
    (free : made.kindAt (directory ++ [name] ++ (front ++ [last])) ≠ some .directory) (content : List UInt8) (mode : Nat)
    (read : made.node source = .ok (.file content mode)) :
    ∃ grown, made.copyFile source target = .ok grown ∧ disk.Furnished (directory ++ [name]) grown ∧
      ∀ place, grown.outsideAt (directory ++ [name] ++ place) =
        if place = front ++ [last] then some (.file content mode)
        else made.outsideAt (directory ++ [name] ++ place) := by
  obtain ⟨written, writes⟩ := write_file_inside site furnished target front last shape named stands free content mode
  obtain ⟨holds, shows⟩ := put_inside site furnished front last (.file content written)
    (Node.bare_file content written) (Node.file_linkless content written) stands free
  generalize made.put (directory ++ [name] ++ (front ++ [last])) (.file content written) = middle at writes holds shows
  have held : middle.at? (directory ++ [name] ++ (front ++ [last])) = some (.file content written) := by
    rw [← outside_file, shows, if_pos rfl]
    rfl
  have kind : middle.kindAt (directory ++ [name] ++ (front ++ [last])) = some .file := (kind_at_file _ _).mpr ⟨_, _, held⟩
  have located := locate_inside site holds target _ _ shape named held
  have middleStands : middle.kindAt (directory ++ [name] ++ front) = some .directory := by
    rw [kind_at_outside, shows, if_neg (by simp), ← kind_at_outside]
    exact stands
  obtain ⟨grownFurnished, grownShows⟩ := put_inside site holds front last (.file content mode)
    (Node.bare_file content mode) (Node.file_linkless content mode) middleStands (by rw [kind]; exact nofun)
  refine ⟨_, ?_, grownFurnished, fun place => ?_⟩
  · rw [copyFile, read]
    simp only [bind, Except.bind]
    rw [writes]
    dsimp only
    rw [located]
  · rw [grownShows, shows]
    split
    · rfl
    · rfl

end

end ScriptSuite.FileSystem.Disk
