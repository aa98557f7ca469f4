import ScriptSuite.Discovery.Collect
import ScriptSuite.Proofs.FileSystem.Furnishing
import ScriptSuite.Proofs.FileSystem.Reordering
import ScriptSuite.Proofs.FileSystem.Standing
import ScriptSuite.Proofs.PathOrder

set_option autoImplicit false

namespace ScriptSuite.Path

theorem after_last_point_none (text : List Char) : afterLastPoint? text = none ↔ '.' ∉ text := by
  induction text with
  | nil => simp [afterLastPoint?]
  | cons c rest step =>
      rw [afterLastPoint?, List.mem_cons, not_or, ← step]
      cases afterLastPoint? rest with
      | some last => simp
      | none => simp [eq_comm]

theorem after_last_point (text last : List Char) :
    afterLastPoint? text = some last ↔ ∃ front, text = front ++ '.' :: last ∧ '.' ∉ last := by
  induction text with
  | nil => simp [afterLastPoint?]
  | cons c rest step =>
      have pointless := after_last_point_none rest
      constructor
      · intro found
        rw [afterLastPoint?] at found
        cases later : afterLastPoint? rest with
        | some other =>
            rw [later] at found step
            obtain ⟨front, rfl, without⟩ := step.mp found
            exact ⟨c :: front, rfl, without⟩
        | none =>
            rw [later] at found
            dsimp only at found
            split at found
            · rename_i point
              cases found
              exact ⟨[], by rw [point]; rfl, pointless.mp later⟩
            · cases found
      · rintro ⟨front, shape, without⟩
        rw [afterLastPoint?]
        cases front with
        | nil =>
            obtain ⟨rfl, rfl⟩ := List.cons.inj shape
            rw [pointless.mpr without]
            rfl
        | cons first front =>
            rw [step.mpr ⟨front, (List.cons.inj shape).2, without⟩]

end ScriptSuite.Path

namespace ScriptSuite.Discovery

open FileSystem Disk ScriptSuite.Path

/-- A name with one of the extensions, which are given with or without leading points. A point that begins a name does
not begin an extension. -/
def Wanted (extensions : List String) (name : String) : Prop :=
  ∃ wanted ∈ extensions, ∃ points stem extension, wanted.toList = List.replicate points '.' ++ extension ∧
    name.toList = stem ++ '.' :: extension ∧ stem ≠ [] ∧ '.' ∉ extension

def Skipped (name : String) : Prop :=
  name = "node_modules" ∨ ∃ rest, name.toList = '.' :: rest

theorem is_skipped_iff (name : String) : isSkipped name = true ↔ Skipped name := by
  rw [isSkipped, Skipped, Bool.or_eq_true, beq_iff_eq, or_comm]
  cases name.toList with
  | nil => simp [List.isPrefixOf]
  | cons first rest =>
      simp only [List.isPrefixOf, Bool.and_true, beq_iff_eq, List.cons.injEq, exists_and_left, exists_eq', and_true]
      rw [eq_comm (a := first)]

theorem drop_points (wanted extension : List Char) (pointless : '.' ∉ extension) :
    wanted.dropWhile (· == '.') = extension ↔ ∃ points, wanted = List.replicate points '.' ++ extension := by
  induction wanted with
  | nil =>
      constructor
      · rintro rfl
        exact ⟨0, rfl⟩
      · rintro ⟨points, shape⟩
        exact (List.append_eq_nil_iff.mp shape.symm).2.symm
  | cons c rest step =>
      by_cases point : c = '.'
      · subst point
        rw [List.dropWhile_cons_of_pos (by decide), step]
        constructor
        · rintro ⟨points, rfl⟩
          exact ⟨points + 1, rfl⟩
        · rintro ⟨points, shape⟩
          cases points with
          | zero =>
              rw [← shape.trans (List.nil_append _)] at pointless
              exact absurd (List.mem_cons_self ..) pointless
          | succ points => exact ⟨points, (List.cons.inj shape).2⟩
      · rw [List.dropWhile_cons_of_neg (by simpa using point)]
        constructor
        · rintro rfl
          exact ⟨0, rfl⟩
        · rintro ⟨points, shape⟩
          cases points with
          | zero => exact shape
          | succ points => exact absurd (List.cons.inj shape).1 point

theorem extension_iff (path : Path) (extension : String) :
    path.extension? = some extension ↔
      ∃ name stem, path.fileName? = some name ∧ name.toList = stem ++ '.' :: extension.toList ∧ stem ≠ [] ∧
        '.' ∉ extension.toList := by
  rw [extension?]
  cases path.fileName? with
  | none => simp
  | some name =>
      dsimp only
      cases shape : name.toList with
      | nil => simp [shape]
      | cons first rest =>
          dsimp only
          rw [Option.map_eq_some_iff]
          constructor
          · rintro ⟨last, found, rfl⟩
            obtain ⟨front, split, pointless⟩ := (after_last_point rest last).mp found
            rw [String.toList_ofList]
            exact ⟨name, first :: front, rfl, by rw [shape, split]; rfl, List.cons_ne_nil _ _, pointless⟩
          · rintro ⟨other, stem, same, split, proper, pointless⟩
            obtain rfl := Option.some.inj same
            refine ⟨extension.toList, (after_last_point rest _).mpr ?_, String.ofList_toList⟩
            cases stem with
            | nil => exact absurd rfl proper
            | cons next stem =>
                rw [shape] at split
                exact ⟨stem, (List.cons.inj split).2, pointless⟩

theorem has_extension_iff (extensions : List String) (path : Path) :
    hasExtension extensions path = true ↔ ∃ name, path.fileName? = some name ∧ Wanted extensions name := by
  rw [hasExtension]
  constructor
  · intro wanted
    cases found : path.extension? with
    | none =>
        rw [found] at wanted
        cases wanted
    | some extension =>
        rw [found] at wanted
        obtain ⟨given, listed, same⟩ := List.any_eq_true.mp wanted
        obtain ⟨name, stem, named, split, proper, pointless⟩ := (extension_iff path extension).mp found
        obtain ⟨points, shape⟩ := (drop_points given.toList extension.toList pointless).mp (by
          rw [← beq_iff_eq.mp same, String.toList_ofList])
        exact ⟨name, named, given, listed, points, stem, extension.toList, shape, split, proper, pointless⟩
  · rintro ⟨name, named, given, listed, points, stem, extension, shape, split, proper, pointless⟩
    have found := (extension_iff path (String.ofList extension)).mpr
      ⟨name, stem, named, by rw [split, String.toList_ofList], proper, by rw [String.toList_ofList]; exact pointless⟩
    rw [found]
    refine List.any_eq_true.mpr ⟨given, listed, ?_⟩
    rw [(drop_points given.toList extension pointless).mpr ⟨points, shape⟩]
    exact beq_self_eq_true _

def descend (root : Path) (names : Place) : Path :=
  names.foldl (fun path name => path.join ⟨name⟩) root

/-- A file that is asked for below the directory. -/
structure Source (disk : Disk) (extensions : List String) (directory names : Place) : Prop where
  file : disk.kindAt (directory ++ names) = some .file
  shown : ∀ name ∈ names.dropLast, ¬Skipped name
  wanted : ∃ name, names.getLast? = some name ∧ Wanted extensions name

/-- A path and where it leads; from there on nothing is a link. -/
structure Rooted (disk : Disk) (root : Path) (place : Place) : Prop where
  located : disk.locate root = .ok place
  plain : ∀ below, disk.kindAt (place ++ below) ≠ some .link
  wellformed : WellformedIn disk.entries

section

variable {disk : Disk} {root : Path} {place : Place} (extensions : List String)

theorem descend_components (nonempty : root.text ≠ "") (names : Place) (named : ∀ name ∈ names, IsName name) :
    (descend root names).components = root.components ++ names.map .name := by
  induction names generalizing root with
  | nil => exact (List.append_nil _).symm
  | cons name rest step =>
      have first := named name (List.mem_cons_self ..)
      rw [descend, List.foldl_cons, ← descend, step (join_nonempty root ⟨name⟩ (name_relative name first) nonempty)
        fun other inside => named other (List.mem_cons_of_mem _ inside), join_components root name nonempty first,
        List.append_assoc]
      rfl

theorem rooted_nonempty (rooted : Rooted disk root place) : root.text ≠ "" :=
  ((locate_follow root).mp rooted.located).1

theorem rooted_entries (rooted : Rooted disk root place) (directory : disk.kindAt place = some .directory) :
    ∃ names, disk.entryNames root = .ok names ∧ names.Nodup ∧
      ∀ name, name ∈ names ↔ disk.kindAt (place ++ [name]) ≠ none := by
  obtain ⟨entries, held⟩ := (kind_at_directory disk place).mp directory
  refine ⟨entries.map (·.1), ?_, (wellformed_names (wellformed_at place entries rooted.wellformed held)).1, fun name => ?_⟩
  · simp [entryNames, node, rooted.located, held, bind, Except.bind]
  · rw [kindAt, at_entry disk place entries name held, Ne, Option.map_eq_none_iff]
    exact listed_lookup entries name

theorem rooted_named (rooted : Rooted disk root place) (names : Place)
    (present : disk.kindAt (place ++ names) ≠ none) : ∀ name ∈ names, IsName name := by
  intro name inside
  refine wellformed_place (place ++ names) rooted.wellformed (fun absent => present ?_) name
    (List.mem_append_right _ inside)
  exact Option.map_eq_none_iff.mpr absent

theorem rooted_join (rooted : Rooted disk root place) (name : String)
    (present : disk.kindAt (place ++ [name]) ≠ none) : Rooted disk (root.join ⟨name⟩) (place ++ [name]) := by
  have named := rooted_named rooted [name] present name (List.mem_singleton_self _)
  refine ⟨?_, fun below => ?_, rooted.wellformed⟩
  · refine join_located disk root name place named rooted.located
      ⟨directory_above disk place [name] (List.cons_ne_nil _ _) present, fun _ _ => ?_⟩
    obtain ⟨node, held⟩ := Option.ne_none_iff_exists'.mp fun absent => present (Option.map_eq_none_iff.mpr absent)
    refine ⟨node, held, ?_⟩
    rintro target rfl
    exact rooted.plain [name] (by rw [kindAt, held]; rfl)
  · rw [List.append_assoc]
    exact rooted.plain _

theorem rooted_is_directory (rooted : Rooted disk root place) :
    disk.isDirectory root = true ↔ disk.kindAt place = some .directory := by
  rw [is_directory_iff]
  constructor
  · rintro ⟨other, located, directory⟩
    rwa [← Except.ok.inj (rooted.located.symm.trans located)] at directory
  · exact fun directory => ⟨place, rooted.located, directory⟩

theorem rooted_is_file (rooted : Rooted disk root place) :
    disk.isFile root = true ↔ disk.kindAt place = some .file := by
  constructor
  · intro file
    obtain ⟨other, content, mode, located, held⟩ := is_file_located disk root file
    obtain rfl := Except.ok.inj (rooted.located.symm.trans located)
    exact (kind_at_file disk place).mpr ⟨content, mode, held⟩
  · intro file
    obtain ⟨content, mode, held⟩ := (kind_at_file disk place).mp file
    simp [isFile, node, rooted.located, held, bind, Except.bind]

theorem rooted_descend (names : Place) (rooted : Rooted disk root place)
    (present : disk.kindAt (place ++ names) ≠ none) : Rooted disk (descend root names) (place ++ names) := by
  induction names generalizing root place with
  | nil =>
      rw [List.append_nil]
      exact rooted
  | cons name rest step =>
      rw [List.append_cons] at present ⊢
      exact step (rooted_join rooted name fun absent => present (nothing_below disk _ rest absent)) present

theorem source_cons (name : String) (rest : Place) :
    Source disk extensions place (name :: rest) ↔
      (rest = [] ∧ disk.kindAt (place ++ [name]) = some .file ∧ Wanted extensions name) ∨
        (disk.kindAt (place ++ [name]) = some .directory ∧ ¬Skipped name ∧
          Source disk extensions (place ++ [name]) rest) := by
  constructor
  · rintro ⟨file, shown, wanted⟩
    cases rest with
    | nil =>
        obtain ⟨last, same, wanted⟩ := wanted
        obtain rfl : name = last := Option.some.inj same
        exact .inl ⟨rfl, file, wanted⟩
    | cons next others =>
        rw [List.append_cons] at file
        refine .inr ⟨directory_above disk _ _ (List.cons_ne_nil next others) ?_, ?_, file, ?_, ?_⟩
        · rw [file]
          exact Option.some_ne_none _
        · exact shown name (List.mem_cons_self ..)
        · exact fun other inside => shown other (List.mem_cons_of_mem _ inside)
        · rwa [List.getLast?_cons_cons] at wanted
  · rintro (⟨rfl, file, wanted⟩ | ⟨directory, visible, file, shown, wanted⟩)
    · exact ⟨file, by simp, name, rfl, wanted⟩
    · cases rest with
      | nil =>
          rw [List.append_nil, directory] at file
          cases file
      | cons next others =>
          rw [← List.append_cons] at file
          refine ⟨file, ?_, by rwa [List.getLast?_cons_cons]⟩
          rw [List.dropLast_cons_cons]
          exact List.forall_mem_cons.mpr ⟨visible, shown⟩

theorem entry_files (fuel : Nat) (rooted : Rooted disk root place) (name : String)
    (present : disk.kindAt (place ++ [name]) ≠ none)
    (step : disk.kindAt (place ++ [name]) = some .directory → ∀ path,
      path ∈ filesBelow disk extensions fuel (root.join ⟨name⟩) ↔ ∃ names, names.length ≤ fuel ∧
        Source disk extensions (place ++ [name]) names ∧ path = descend (root.join ⟨name⟩) names)
    (path : Path) :
    path ∈ entryFiles disk extensions (filesBelow disk extensions fuel) root name ↔
      ∃ names, names.length ≤ fuel ∧ Source disk extensions place (name :: names) ∧
        path = descend root (name :: names) := by
  have joined := rooted_join rooted name present
  have named := rooted_named rooted [name] present name (List.mem_singleton_self _)
  simp only [entryFiles, source_cons]
  by_cases directory : disk.kindAt (place ++ [name]) = some .directory
  · rw [if_pos ((rooted_is_directory joined).mpr directory)]
    by_cases skipped : isSkipped name = true
    · have skips := (is_skipped_iff name).mp skipped
      simp [skipped, skips, directory]
    · have shows : ¬Skipped name := fun skips => skipped ((is_skipped_iff name).mpr skips)
      rw [if_neg skipped, step directory]
      simp [directory, shows, descend]
  · have plain := rooted.plain [name]
    have file : disk.kindAt (place ++ [name]) = some .file := by
      obtain ⟨kind, stands⟩ := Option.ne_none_iff_exists'.mp present
      cases kind with
      | file => exact stands
      | directory => exact absurd stands directory
      | link => exact absurd stands plain
    rw [if_neg fun isDirectory => directory ((rooted_is_directory joined).mp isDirectory)]
    have last : (root.join ⟨name⟩).fileName? = some name := by
      rw [fileName?, join_components root name (rooted_nonempty rooted) named, List.getLast?_concat]
    have wanted := has_extension_iff extensions (root.join ⟨name⟩)
    simp only [last, Option.some.injEq, exists_eq_left'] at wanted
    by_cases asked : hasExtension extensions (root.join ⟨name⟩) = true
    · simp [asked, file, wanted.mp asked, descend]
    · simp [asked, file, mt wanted.mpr asked]

theorem mem_files_below (fuel : Nat) (rooted : Rooted disk root place) (directory : disk.kindAt place = some .directory)
    (path : Path) :
    path ∈ filesBelow disk extensions fuel root ↔
      ∃ names, names.length ≤ fuel ∧ Source disk extensions place names ∧ path = descend root names := by
  induction fuel generalizing root place path with
  | zero =>
      refine ⟨fun inside => absurd inside List.not_mem_nil, ?_⟩
      rintro ⟨names, short, source, _⟩
      have file := source.file
      rw [List.length_eq_zero_iff.mp (Nat.le_zero.mp short), List.append_nil, directory] at file
      cases file
  | succ fuel step =>
      obtain ⟨names, listed, _, present⟩ := rooted_entries rooted directory
      rw [filesBelow, listed]
      dsimp only
      rw [sortPaths, List.mem_mergeSort, List.mem_flatMap]
      have each := fun name (inside : name ∈ names) => entry_files extensions fuel rooted name ((present name).mp inside)
        (step (rooted_join rooted name ((present name).mp inside)))
      constructor
      · rintro ⟨name, inside, found⟩
        obtain ⟨rest, short, source, rfl⟩ := (each name inside path).mp found
        exact ⟨name :: rest, Nat.succ_le_succ short, source, rfl⟩
      · rintro ⟨names, short, source, rfl⟩
        have file := source.file
        cases names with
        | nil =>
            rw [List.append_nil, directory] at file
            cases file
        | cons name rest =>
            have inside := (present name).mpr fun absent => by
              rw [List.append_cons, nothing_below disk _ rest absent] at file
              cases file
            exact ⟨name, inside, (each name inside _).mpr ⟨rest, Nat.le_of_succ_le_succ short, source, rfl⟩⟩

theorem sort_strict (paths : List Path) (apart : paths.Pairwise fun a b => a.components ≠ b.components) :
    (sortPaths paths).Pairwise fun a b => a.compare b = .lt := by
  have sorted : (sortPaths paths).Pairwise fun a b => (a.compare b != .gt) = true := by
    refine List.pairwise_mergeSort (fun a b c first second => ?_) (fun a b => ?_) paths
    · rw [compare_le] at first second ⊢
      exact Std.TransCmp.isLE_trans first second
    · have swapped : b.compare a = (a.compare b).swap := Std.OrientedCmp.eq_swap
      rw [swapped]
      cases a.compare b <;> rfl
  have different : (sortPaths paths).Pairwise fun a b => a.components ≠ b.components :=
    apart.perm (List.mergeSort_perm paths _).symm Ne.symm
  refine (sorted.and different).imp fun {a b} both => ?_
  have unequal := mt (compare_eq a b).mp both.2
  cases order : a.compare b with
  | lt => rfl
  | eq => exact absurd order unequal
  | gt => simp [order] at both

theorem entry_files_spelled (fuel : Nat) (rooted : Rooted disk root place) (name : String)
    (present : disk.kindAt (place ++ [name]) ≠ none) (path : Path)
    (found : path ∈ entryFiles disk extensions (filesBelow disk extensions fuel) root name) :
    ∃ rest, path.components = root.components ++ .name name :: rest := by
  obtain ⟨rest, _, source, rfl⟩ := (entry_files extensions fuel rooted name present
    (mem_files_below extensions fuel (rooted_join rooted name present)) path).mp found
  have named := rooted_named rooted (name :: rest) (by rw [source.file]; exact Option.some_ne_none _)
  exact ⟨rest.map .name, descend_components (rooted_nonempty rooted) (name :: rest) named⟩

theorem files_below_strict (fuel : Nat) (rooted : Rooted disk root place)
    (directory : disk.kindAt place = some .directory) :
    (filesBelow disk extensions fuel root).Pairwise fun a b => a.compare b = .lt := by
  induction fuel generalizing root place with
  | zero => exact .nil
  | succ fuel step =>
      obtain ⟨names, listed, distinct, present⟩ := rooted_entries rooted directory
      rw [filesBelow, listed]
      refine sort_strict _ (List.pairwise_flatMap.mpr ⟨fun name inside => ?_, ?_⟩)
      · have joined := rooted_join rooted name ((present name).mp inside)
        rw [entryFiles]
        split
        · rename_i inner
          split
          · exact .nil
          · refine (step joined ((rooted_is_directory joined).mp inner)).imp fun {a b} before same => ?_
            rw [(compare_eq a b).mpr same] at before
            cases before
        · split
          · exact List.pairwise_singleton _ _
          · exact .nil
      · refine distinct.imp_of_mem fun {name other} inside otherInside different path found last lastFound same => ?_
        obtain ⟨rest, spelled⟩ := entry_files_spelled extensions fuel rooted name ((present name).mp inside) path found
        obtain ⟨others, lastSpelled⟩ :=
          entry_files_spelled extensions fuel rooted other ((present other).mp otherInside) last lastFound
        rw [spelled, lastSpelled, List.append_cancel_left_eq, List.cons.injEq, Component.name.injEq] at same
        exact different same.1

-- No file lies deeper than there are nodes.
theorem source_depth (names : Place) (source : Source disk extensions place names) : names.length ≤ maxDepth disk := by
  obtain ⟨content, mode, held⟩ := (kind_at_file disk _).mp source.file
  have depth := places_in_depth disk.entries (place ++ names) (file_listed disk _ content mode held)
  rw [List.length_append] at depth
  rw [maxDepth, Nat.add_mul]
  have links : 1 ≤ maxLinks + 2 := by decide
  have more := Nat.le_mul_of_pos_right (countEntries disk.entries) links
  omega

theorem collect_directory (rooted : Rooted disk root place) (directory : disk.kindAt place = some .directory) :
    (collect disk extensions root).Pairwise (fun a b => a.compare b = .lt) ∧
      ∀ path, path ∈ collect disk extensions root ↔
        ∃ names, Source disk extensions place names ∧ path = descend root names := by
  have notFile : ¬disk.isFile root = true := fun isFile => by
    rw [(rooted_is_file rooted).mp isFile] at directory
    cases directory
  rw [collect, if_neg notFile]
  refine ⟨files_below_strict extensions _ rooted directory, fun path => ?_⟩
  rw [mem_files_below extensions _ rooted directory]
  constructor
  · rintro ⟨names, _, source, same⟩
    exact ⟨names, source, same⟩
  · rintro ⟨names, source, same⟩
    exact ⟨names, source_depth extensions names source, source, same⟩

theorem collect_file (rooted : Rooted disk root place) (file : disk.kindAt place = some .file) :
    collect disk extensions root = if hasExtension extensions root then [root] else [] := by
  rw [collect, if_pos ((rooted_is_file rooted).mpr file)]

theorem collect_elsewhere (rooted : Rooted disk root place) (notDirectory : disk.kindAt place ≠ some .directory)
    (notFile : disk.kindAt place ≠ some .file) : collect disk extensions root = [] := by
  have refused : ∃ fault, disk.entryNames root = .error fault := by
    rw [entryNames, node, rooted.located]
    unfold kindAt at notDirectory
    cases held : disk.at? place with
    | none => exact ⟨_, by simp [held, bind, Except.bind]; rfl⟩
    | some node =>
        cases node with
        | directory entries => exact absurd (by rw [held]; rfl) notDirectory
        | file content mode => exact ⟨_, by simp [held, bind, Except.bind]; rfl⟩
        | link target => exact ⟨_, by simp [held, bind, Except.bind]; rfl⟩
  obtain ⟨fault, refused⟩ := refused
  rw [collect, if_neg (mt (rooted_is_file rooted).mp notFile)]
  cases maxDepth disk with
  | zero => rfl
  | succ fuel => rw [filesBelow, refused]

theorem strict_unique (left right : List Path) (leftStrict : left.Pairwise fun a b => a.compare b = .lt)
    (rightStrict : right.Pairwise fun a b => a.compare b = .lt) (same : ∀ path, path ∈ left ↔ path ∈ right) :
    left = right := by
  have irreflexive : ∀ path : Path, path.compare path ≠ .lt := fun path before => by
    rw [(compare_eq path path).mpr rfl] at before
    cases before
  have distinct : ∀ paths : List Path, (paths.Pairwise fun a b => a.compare b = .lt) → paths.Nodup := by
    refine fun paths strict => strict.imp ?_
    rintro a _ before rfl
    exact irreflexive a before
  refine List.Perm.eq_of_pairwise (fun a b _ _ before after => ?_) leftStrict rightStrict
    ((List.perm_ext_iff_of_nodup (distinct left leftStrict) (distinct right rightStrict)).mpr same)
  have swapped : b.compare a = (a.compare b).swap := Std.OrientedCmp.eq_swap
  rw [before, after] at swapped
  cases swapped

theorem source_kept {other : Disk} (keeps : Keeps disk other) (names : Place)
    (source : Source disk extensions place names) : Source other extensions place names :=
  ⟨keeps_kind keeps _ _ source.file, source.shown, source.wanted⟩

theorem collect_reordered (rooted : Rooted disk root place) (entries : Entries)
    (reordered : Reordered disk.entries entries) :
    collect { disk with entries } extensions root = collect disk extensions root := by
  obtain ⟨there, back⟩ := reordered_keeps entries reordered rooted.wellformed
  have otherRooted : Rooted { disk with entries } root place :=
    ⟨keeps_locate there root rooted.located, fun below linked => rooted.plain below (keeps_kind back _ _ linked),
      reordered_wellformed reordered rooted.wellformed⟩
  by_cases directory : disk.kindAt place = some .directory
  · obtain ⟨strict, members⟩ := collect_directory extensions rooted directory
    obtain ⟨otherStrict, otherMembers⟩ :=
      collect_directory extensions otherRooted (keeps_kind there place _ directory)
    refine strict_unique _ _ otherStrict strict fun path => ?_
    rw [members, otherMembers]
    exact ⟨fun ⟨names, source, same⟩ => ⟨names, source_kept extensions back names source, same⟩,
      fun ⟨names, source, same⟩ => ⟨names, source_kept extensions there names source, same⟩⟩
  · by_cases file : disk.kindAt place = some .file
    · rw [collect_file extensions rooted file, collect_file extensions otherRooted (keeps_kind there place _ file)]
    · rw [collect_elsewhere extensions rooted directory file,
        collect_elsewhere extensions otherRooted (fun other => directory (keeps_kind back place _ other))
          (fun other => file (keeps_kind back place _ other))]

end

/-- Below a directory the files that are asked for are collected, each once and in order; a file stands for itself if
it is asked for. How directories list their entries does not matter. -/
theorem collect_exact (disk : Disk) (extensions : List String) (root : Path) (place : Place)
    (rooted : Rooted disk root place) :
    (disk.kindAt place = some .directory →
      (collect disk extensions root).Pairwise (fun a b => a.compare b = .lt) ∧
      (∀ path, path ∈ collect disk extensions root ↔
        ∃ names, Source disk extensions place names ∧ path = descend root names) ∧
      ∀ names, Source disk extensions place names → disk.locate (descend root names) = .ok (place ++ names)) ∧
    (disk.kindAt place = some .file →
      ((∃ name, root.fileName? = some name ∧ Wanted extensions name) → collect disk extensions root = [root]) ∧
      (¬(∃ name, root.fileName? = some name ∧ Wanted extensions name) → collect disk extensions root = [])) ∧
    ∀ entries, Reordered disk.entries entries →
      collect { disk with entries } extensions root = collect disk extensions root := by
  refine ⟨fun directory => ?_, fun file => ?_, fun entries => collect_reordered extensions rooted entries⟩
  · obtain ⟨strict, members⟩ := collect_directory extensions rooted directory
    refine ⟨strict, members, fun names source => (rooted_descend names rooted ?_).located⟩
    rw [source.file]
    exact Option.some_ne_none _
  · rw [collect_file extensions rooted file, ← has_extension_iff]
    exact ⟨fun asked => if_pos asked, fun other => if_neg other⟩

def suiteDisk : Disk :=
  ⟨[("suite", .directory [("nested", .directory [("c.js", .file [] 420)]), (".hidden", .directory [("d.js", .file [] 420)]),
    ("b.js", .file [] 420), ("notes.txt", .file [] 420)])], []⟩

def relistedSuite : Entries :=
  [("suite", .directory [(".hidden", .directory [("d.js", .file [] 420)]), ("nested", .directory [("c.js", .file [] 420)]),
    ("b.js", .file [] 420), ("notes.txt", .file [] 420)])]

theorem suite_collected :
    Rooted suiteDisk ⟨"/suite"⟩ ["suite"] ∧ suiteDisk.kindAt ["suite"] = some .directory ∧
      ⟨"/suite/nested/c.js"⟩ ∈ collect suiteDisk [".js"] ⟨"/suite"⟩ ∧
      ⟨"/suite/.hidden/d.js"⟩ ∉ collect suiteDisk [".js"] ⟨"/suite"⟩ ∧
      Reordered suiteDisk.entries relistedSuite ∧
      collect { suiteDisk with entries := relistedSuite } [".js"] ⟨"/suite"⟩ = collect suiteDisk [".js"] ⟨"/suite"⟩ := by
  have rooted : Rooted suiteDisk ⟨"/suite"⟩ ["suite"] := by
    refine ⟨by decide, fun below => link_free_of_places suiteDisk (by decide) _, ?_⟩
    simp only [suiteDisk, WellformedIn, Node.Wellformed]
    decide
  have directory : suiteDisk.kindAt ["suite"] = some .directory := by decide
  have relisted : Reordered suiteDisk.entries relistedSuite := .inside _ _ (.swapped ..)
  obtain ⟨below, _, unordered⟩ := collect_exact suiteDisk [".js"] ⟨"/suite"⟩ ["suite"] rooted
  obtain ⟨_, members, located⟩ := below directory
  have shown : ∀ name ∈ ["nested"], ¬Skipped name := fun name inside =>
    List.mem_singleton.mp inside ▸ mt (is_skipped_iff "nested").mpr (by decide)
  have wanted : Wanted [".js"] "c.js" := ⟨".js", by simp, 1, ['c'], ['j', 's'], by decide, by decide, by decide, by decide⟩
  refine ⟨rooted, directory, (members _).mpr ⟨["nested", "c.js"], ⟨by decide, shown, "c.js", rfl, wanted⟩, by decide⟩,
    fun found => ?_, relisted, unordered _ relisted⟩
  obtain ⟨names, source, same⟩ := (members _).mp found
  have place := located names source
  rw [← same, show suiteDisk.locate ⟨"/suite/.hidden/d.js"⟩ = .ok ["suite", ".hidden", "d.js"] by decide] at place
  obtain rfl : [".hidden", "d.js"] = names := (List.cons.inj (Except.ok.inj place)).2
  exact source.shown ".hidden" (List.mem_cons_self ..) ((is_skipped_iff ".hidden").mp (by decide))

end ScriptSuite.Discovery
