import ScriptSuite.Proofs.FileSystem.Naming
import ScriptSuite.Proofs.FileSystem.Walking

set_option autoImplicit false

namespace ScriptSuite.FileSystem.Disk

open ScriptSuite.Path Place

section

variable {disk grown : Disk} {files directories : Place → Prop}

theorem grows_landing (grows : Grows files directories disk grown) (path : Path) :
    grown.landing path = disk.landing path := by
  rw [landing, landing, grows_origin grows]

theorem grows_passable (grows : Grows files directories disk grown) (here : Place) (segments : List String)
    (passable : disk.Passable here segments) : grown.Passable here segments :=
  fun place member => grows_keeps grows place .directory (passable place member)

theorem grows_locate (grows : Grows files directories disk grown) (linkFree : disk.LinkFree) (path : Path)
    (place : Place) (located : disk.locate path = .ok place) : grown.locate path = .ok place := by
  obtain ⟨nonempty, same, passable, present⟩ := (locate_iff linkFree path place).mp located
  obtain ⟨kind, present⟩ := Option.ne_none_iff_exists'.mp present
  refine (locate_iff (grows_link_free grows linkFree) path place).mpr ⟨nonempty, ?_, ?_, ?_⟩
  · rw [grows_landing grows, same]
  · rw [grows_origin grows]
    exact grows_passable grows _ _ passable
  · rw [grows_keeps grows place kind present]
    exact Option.some_ne_none kind

theorem put_grows (directory : Place) (name : String) (node : Node) (bare : node.Bare)
    (held : disk.kindAt directory = some .directory) (absent : disk.kindAt (directory ++ [name]) = none)
    (allowed : node.kind = .file ∧ files (directory ++ [name]) ∨
      node.kind = .directory ∧ directories (directory ++ [name])) :
    Grows files directories disk (disk.put (directory ++ [name]) node) := by
  refine ⟨rfl, fun place => ?_⟩
  rw [kind_at_put disk directory name node bare held place]
  by_cases here : place = directory ++ [name]
  · subst here
    rw [if_pos rfl]
    exact .inr ⟨absent, allowed.imp (fun ⟨kind, also⟩ => ⟨kind ▸ rfl, also⟩) fun ⟨kind, also⟩ => ⟨kind ▸ rfl, also⟩⟩
  · rw [if_neg here]
    by_cases within : directory ++ [name] <+: place
    · obtain ⟨below, rfl⟩ := within
      rw [if_pos (List.prefix_append _ _), nothing_below disk _ below absent]
      exact .inl rfl
    · rw [if_neg within]
      exact .inl rfl

theorem put_over_file (place : Place) (content : List UInt8) (mode : Nat) (file : disk.kindAt place = some .file) :
    Grows files directories disk (disk.put place (.file content mode)) := by
  cases place using List.reverseRecOn with
  | nil => exact absurd file (by simp [kind_at_top])
  | append_singleton directory name =>
      have held := directory_above disk directory [name] (by simp) (by rw [file]; simp)
      refine ⟨rfl, fun other => .inl ?_⟩
      rw [kind_at_put disk directory name _ (Node.bare_file content mode) held other]
      split
      · rename_i here
        rw [here, file]
        rfl
      · rename_i off
        split
        · rename_i within
          obtain ⟨below, rfl⟩ := within
          exact (file_is_leaf disk _ below file fun none => off (by rw [none, List.append_nil])).symm
        · rfl

theorem reach_missing (linkFree : disk.LinkFree) (followLast : Bool) (path : Path) (directory : Place) (name : String)
    (slashed : Bool) (missing : disk.reach followLast path = .ok (.missing directory name slashed)) :
    directory ++ [name] = disk.landing path ∧ disk.kindAt directory = some .directory ∧
      disk.kindAt (directory ++ [name]) = none := by
  by_cases empty : path.text = ""
  · rw [reach, if_pos empty] at missing
    cases missing
  · rw [reach_walks linkFree followLast path empty] at missing
    exact walk_missing linkFree followLast _ directory path.segments name slashed missing

theorem reach_arrived (linkFree : disk.LinkFree) (followLast : Bool) (path : Path) (place : Place)
    (located : disk.locate path = .ok place) : disk.reach followLast path = .ok (.arrived place) := by
  obtain ⟨nonempty, same, passable, present⟩ := (locate_iff linkFree path place).mp located
  rw [reach_walks linkFree followLast path nonempty]
  exact (walk_arrives_iff linkFree followLast _ place _).mpr ⟨same, passable, .inr present⟩

theorem create_directory_grows (linkFree : disk.LinkFree) (path : Path)
    (made : disk.createDirectory path = .ok grown) :
    Grows (fun _ => False) (· = disk.landing path) disk grown := by
  rw [createDirectory] at made
  cases reached : disk.reach false path with
  | error fault =>
      rw [reached] at made
      cases made
  | ok walked =>
      rw [reached] at made
      cases walked with
      | arrived place => cases made
      | redirected directory target rest => cases made
      | missing directory name slashed =>
          cases made
          obtain ⟨same, held, absent⟩ := reach_missing linkFree false path directory name slashed reached
          exact put_grows directory name _ Node.bare_directory held absent (.inr ⟨rfl, same⟩)

theorem create_each_grows (linkFree : disk.LinkFree) (paths : List Path) (made : disk.createEach paths = .ok grown) :
    Grows (fun _ => False) (fun place => ∃ path ∈ paths, place = disk.landing path) disk grown := by
  induction paths generalizing disk with
  | nil =>
      cases made
      exact grows_refl
  | cons path rest step =>
      rw [createEach] at made
      cases first : disk.createDirectory path with
      | ok middle =>
          rw [first] at made
          have grows := create_directory_grows linkFree path first
          refine grows_trans (grows_mono grows (fun _ => id) ?_)
            (grows_mono (step (grows_link_free grows linkFree) made) (fun _ => id) ?_)
          · rintro place rfl
            exact ⟨path, List.mem_cons_self .., rfl⟩
          · rintro place ⟨other, member, rfl⟩
            exact ⟨other, List.mem_cons_of_mem _ member, grows_landing grows other⟩
      | error fault =>
          rw [first] at made
          dsimp only at made
          split at made
          · refine grows_mono (step linkFree made) (fun _ => id) ?_
            rintro place ⟨other, member, rfl⟩
            exact ⟨other, List.mem_cons_of_mem _ member, rfl⟩
          · cases made

theorem create_directories_grows (linkFree : disk.LinkFree) (path : Path)
    (made : disk.createDirectories path = .ok grown) :
    Grows (fun _ => False) (fun _ => True) disk grown := by
  rw [createDirectories] at made
  split at made
  · cases made
    exact grows_refl
  · exact grows_mono (create_each_grows linkFree _ made) (fun _ => id) fun _ _ => trivial

end

def Anchored (root : Path) : Prop :=
  ∃ front last, root.segments = "" :: (front ++ [last]) ∧ isSilent last = false

section

variable {disk grown : Disk} {root : Path}

theorem anchored_absolute (anchored : Anchored root) : root.isAbsolute = true := by
  obtain ⟨front, last, shape, _⟩ := anchored
  exact (absolute_segments root).mpr ⟨_, by simp, shape⟩

theorem anchored_extension (anchored : Anchored root) (path : Path) (names : Place)
    (shape : path.segments = root.segments ++ names) : path.isAbsolute = true := by
  obtain ⟨front, last, spelled, _⟩ := anchored
  refine (absolute_segments path).mpr ⟨front ++ [last] ++ names, by simp, ?_⟩
  rw [shape, spelled, List.cons_append]

theorem anchored_landing (anchored : Anchored root) (path : Path) (names : Place)
    (shape : path.segments = root.segments ++ names) (named : ∀ name ∈ names, IsName name) :
    disk.landing path = disk.landing root ++ names := by
  rw [landing, landing, origin, origin, anchored_absolute anchored, anchored_extension anchored path names shape, shape,
    arrival_append, arrival_named _ names named]

theorem anchored_locate (linkFree : disk.LinkFree) (anchored : Anchored root)
    (located : disk.locate root = .ok (disk.landing root)) (path : Path) (names : Place)
    (shape : path.segments = root.segments ++ names) (named : ∀ name ∈ names, IsName name)
    (present : disk.kindAt (disk.landing root ++ names) ≠ none) :
    disk.locate path = .ok (disk.landing root ++ names) := by
  have absolute := anchored_extension anchored path names shape
  obtain ⟨_, _, passable, _⟩ := (locate_iff linkFree root _).mp located
  refine (locate_iff linkFree path _).mpr
    ⟨text_nonempty path absolute, (anchored_landing anchored path names shape named).symm, ?_, present⟩
  rw [origin, anchored_absolute anchored] at passable
  rw [origin, absolute, shape, passable_append]
  refine ⟨passable, ?_⟩
  have lands : arrival [] root.segments = disk.landing root := by
    rw [landing, origin, anchored_absolute anchored, if_pos rfl]
  rw [if_pos rfl, lands]
  exact passable_names _ names named present

theorem anchored_parent (anchored : Anchored root) (path : Path) (names : Place) (name : String)
    (shape : path.segments = root.segments ++ (names ++ [name])) (named : ∀ other ∈ names ++ [name], IsName other) :
    ∃ parent, path.parent? = some parent ∧ parent.segments = root.segments ++ names := by
  obtain ⟨front, last, spelled, audible⟩ := anchored
  obtain ⟨start, final, cut, finalAudible⟩ : ∃ start final, front ++ [last] ++ names = start ++ [final] ∧
      isSilent final = false := by
    cases names using List.reverseRecOn with
    | nil => exact ⟨front, last, List.append_nil _, audible⟩
    | append_singleton before final =>
        exact ⟨front ++ [last] ++ before, final, by simp, (named final (by simp)).audible⟩
  have whole : path.segments = "" :: (start ++ [final]) ++ [name] := by
    rw [shape, spelled, ← cut]
    simp
  obtain ⟨parent, found, rest⟩ :=
    parent_segments path start final name whole (named name (by simp)).audible finalAudible
  exact ⟨parent, found, by rw [rest, ← cut, spelled]; simp⟩

def Below (root : Path) (names : Place) (path : Path) : Prop :=
  ∃ front, front <+: names ∧ path.segments = root.segments ++ front

theorem first_below (path : Path) (names : Place) (found : List Path) (shape : path.segments = root.segments ++ names) :
    ∀ other ∈ path :: found, other ∈ found ∨ Below root names other := by
  intro other member
  rcases List.mem_cons.mp member with rfl | old
  · exact .inr ⟨names, List.prefix_rfl, shape⟩
  · exact .inl old

theorem missing_ancestors_below (anchored : Anchored root) (present : disk.createDirectory root ≠ .error .notFound)
    (fuel : Nat) (path : Path) (names : Place) (found : List Path) (shape : path.segments = root.segments ++ names)
    (named : ∀ name ∈ names, IsName name) :
    ∀ other ∈ disk.missingAncestors fuel path found, other ∈ found ∨ Below root names other := by
  induction fuel generalizing path names found with
  | zero => exact first_below path names found shape
  | succ fuel step =>
      rw [missingAncestors]
      split
      · rename_i missing
        cases names using List.reverseRecOn with
        | nil =>
            have same : path = root := path_of_segments (by rw [shape, List.append_nil])
            exact absurd (same ▸ missing) present
        | append_singleton before name =>
            obtain ⟨parent, up, parentShape⟩ := anchored_parent anchored path before name shape named
            rw [up]
            dsimp only
            split
            · exact first_below path _ found shape
            · intro other member
              have deeper := step parent before (path :: found) parentShape fun other inside =>
                named other (List.mem_append_left _ inside)
              rcases deeper other member with old | ⟨front, within, spelled⟩
              · exact first_below path _ found shape other old
              · exact .inr ⟨front, within.trans (List.prefix_append _ _), spelled⟩
      · exact first_below path names found shape

theorem create_directories_below (linkFree : disk.LinkFree) (anchored : Anchored root)
    (located : disk.locate root = .ok (disk.landing root)) (path : Path) (names : Place)
    (shape : path.segments = root.segments ++ names) (named : ∀ name ∈ names, IsName name)
    (made : disk.createDirectories path = .ok grown) :
    Grows (fun _ => False) (fun place => ∃ front, front <+: names ∧ place = disk.landing root ++ front) disk grown := by
  have present : disk.createDirectory root ≠ .error .notFound := by
    rw [createDirectory, reach_arrived linkFree false root _ located]
    exact nofun
  have nonempty := text_nonempty path (anchored_extension anchored path names shape)
  rw [createDirectories, if_neg nonempty] at made
  refine grows_mono (create_each_grows linkFree _ made) (fun _ => id) ?_
  rintro place ⟨other, member, rfl⟩
  have below := missing_ancestors_below anchored present _ path names [] shape named other member
  rcases below with none | ⟨front, within, spelled⟩
  · exact absurd none List.not_mem_nil
  · exact ⟨front, within, anchored_landing anchored other front spelled fun name inside =>
      named name (within.subset inside)⟩

theorem write_file_grows (linkFree : disk.LinkFree) (path : Path) (content : List UInt8) (mode : Nat)
    (written : disk.writeFile path content mode = .ok grown) :
    Grows (· = disk.landing path) (fun _ => False) disk grown ∧ grown.kindAt (disk.landing path) = some .file := by
  rw [writeFile] at written
  cases reached : disk.reach true path with
  | error fault =>
      rw [reached] at written
      cases written
  | ok walked =>
      rw [reached] at written
      cases walked with
      | redirected directory target rest => cases written
      | missing directory name slashed =>
          cases slashed with
          | true => cases written
          | false =>
              cases written
              obtain ⟨same, held, absent⟩ := reach_missing linkFree true path directory name false reached
              refine ⟨put_grows directory name _ (Node.bare_file content mode) held absent (.inl ⟨rfl, same⟩), ?_⟩
              rw [← same, kind_at_put disk directory name _ (Node.bare_file content mode) held, if_pos rfl]
              rfl
      | arrived place =>
          have located : disk.locate path = .ok place := by rw [locate, reached]
          obtain ⟨_, same, _⟩ := (locate_iff linkFree path place).mp located
          cases present : disk.at? place with
          | none => simp [bind, Except.bind, present] at written
          | some node =>
              cases node with
              | directory entries => simp [bind, Except.bind, present] at written
              | link target => simp [bind, Except.bind, present] at written
              | file old oldMode =>
                  have file := (kind_at_file disk place).mpr ⟨old, oldMode, present⟩
                  simp only [bind, Except.bind, present, Except.ok.injEq] at written
                  subst written
                  have grows : Grows (· = disk.landing path) (fun _ => False) disk
                      (disk.put place (.file content oldMode)) := put_over_file place content oldMode file
                  exact ⟨grows, same ▸ grows_keeps grows place .file file⟩

theorem copy_file_grows (linkFree : disk.LinkFree) (source target : Path)
    (copied : disk.copyFile source target = .ok grown) :
    Grows (· = disk.landing target) (fun _ => False) disk grown ∧ grown.kindAt (disk.landing target) = some .file ∧
      grown.locate target = .ok (disk.landing target) := by
  rw [copyFile] at copied
  cases read : disk.node source with
  | error fault =>
      rw [read] at copied
      cases copied
  | ok node =>
      rw [read] at copied
      cases node with
      | directory entries => cases copied
      | link other => cases copied
      | file content mode =>
          simp only [bind, Except.bind] at copied
          cases written : disk.writeFile target content mode with
          | error fault => simp [written] at copied
          | ok middle =>
              obtain ⟨first, file⟩ := write_file_grows linkFree target content mode written
              have middleFree := grows_link_free first linkFree
              rw [written] at copied
              cases located : middle.locate target with
              | error fault => simp [located] at copied
              | ok place =>
                  obtain ⟨_, same, _⟩ := (locate_iff middleFree target place).mp located
                  rw [grows_landing first] at same
                  subst same
                  simp only [located, Except.ok.injEq] at copied
                  subst copied
                  have second : Grows (· = disk.landing target) (fun _ => False) middle
                      (middle.put (disk.landing target) (.file content mode)) := put_over_file _ content mode file
                  exact ⟨grows_trans first second, grows_keeps second _ .file file,
                    grows_locate second middleFree target _ located⟩

end

structure Fresh (disk made : Disk) (root : Path) : Prop where
  anchored : Anchored root
  absent : disk.kindAt (disk.landing root) = none
  grows : Grows (fun _ => False) (· = disk.landing root) disk made
  stands : made.kindAt (disk.landing root) = some .directory
  located : made.locate root = .ok (disk.landing root)

theorem join_anchored (parent : Path) (name : String) (absolute : parent.isAbsolute = true) (named : IsName name) :
    Anchored (parent.join ⟨name⟩) := by
  obtain ⟨rest, nonempty, shape⟩ := (absolute_segments parent).mp absolute
  have joined := join_segments parent ⟨name⟩ (name_relative name named) (text_nonempty parent absolute)
  rw [name_segments name named, shape] at joined
  by_cases slash : parent.text.toList.getLast? = some '/'
  · rw [if_pos slash, List.dropLast_cons_of_ne_nil nonempty] at joined
    exact ⟨rest.dropLast, name, joined, named.audible⟩
  · rw [if_neg slash] at joined
    exact ⟨rest, name, joined, named.audible⟩

def absolute (disk : Disk) (path : Path) : Path :=
  if path.isAbsolute then path else disk.currentPath.join path

theorem absolute_is_absolute (disk : Disk) (path : Path) : (disk.absolute path).isAbsolute = true := by
  rw [absolute]
  split
  · assumption
  · rename_i relative
    have current : disk.currentPath.isAbsolute = true := path_of_absolute disk.workingDirectory
    rw [absolute_join _ path (by simpa using relative) (text_nonempty _ current), current]

-- Whether a new directory can be made does not depend on what it is called.
theorem create_temporary_cases (disk : Disk) (parent : Path) :
    (∃ fault, ∀ naming stem, disk.createTemporary naming parent stem = .error fault) ∨
      ∃ directory entries, disk.locate (disk.absolute parent) = .ok directory ∧
        disk.at? directory = some (.directory entries) ∧
        ∀ naming stem, disk.createTemporary naming parent stem =
          .ok (disk.put (directory ++ [naming stem entries]) (.directory []),
            (disk.absolute parent).join ⟨naming stem entries⟩) := by
  simp only [createTemporary, absolute, bind, Except.bind]
  generalize (if parent.isAbsolute = true then parent else disk.currentPath.join parent) = path
  cases located : disk.locate path with
  | error fault => exact .inl ⟨fault, fun _ _ => rfl⟩
  | ok directory =>
      cases held : disk.at? directory with
      | none => exact .inl ⟨.notFound, fun _ _ => by simp only [held]⟩
      | some node =>
          cases node with
          | file content mode => exact .inl ⟨.notADirectory, fun _ _ => by simp only [held]⟩
          | link target => exact .inl ⟨.notADirectory, fun _ _ => by simp only [held]⟩
          | directory entries => exact .inr ⟨directory, entries, rfl, held, fun _ _ => by simp only [held]⟩

section

variable {naming : Naming} (lawful : naming.Lawful)

include lawful

theorem create_temporary_made (disk made : Disk) (parent root : Path) (stem : String) (unslashed : '/' ∉ stem.toList)
    (long : 2 < stem.toList.length) (created : disk.createTemporary naming parent stem = .ok (made, root)) :
    ∃ directory entries name, disk.locate (disk.absolute parent) = .ok directory ∧
      disk.at? directory = some (.directory entries) ∧ entries.lookup name = none ∧ IsName name ∧
      made = disk.put (directory ++ [name]) (.directory []) ∧ root = (disk.absolute parent).join ⟨name⟩ := by
  rcases create_temporary_cases disk parent with ⟨fault, fails⟩ | ⟨directory, entries, located, held, makes⟩
  · rw [fails] at created
    cases created
  · rw [makes] at created
    cases created
    exact ⟨directory, entries, _, located, held, lawful.free stem entries, lawful.named stem entries unslashed long, rfl, rfl⟩

theorem create_temporary_fresh (disk made : Disk) (linkFree : disk.LinkFree) (parent root : Path) (stem : String)
    (unslashed : '/' ∉ stem.toList) (long : 2 < stem.toList.length)
    (created : disk.createTemporary naming parent stem = .ok (made, root)) : Fresh disk made root := by
  obtain ⟨place, entries, name, located, present, new, named, rfl, rfl⟩ :=
    create_temporary_made lawful disk made parent root stem unslashed long created
  have absolute := absolute_is_absolute disk parent
  generalize disk.absolute parent = above at absolute located
  have held : disk.kindAt place = some .directory := (kind_at_directory disk place).mpr ⟨entries, present⟩
  have absent : disk.kindAt (place ++ [name]) = none := by
    rw [kindAt, at_entry disk place entries name present, new]
    rfl
  obtain ⟨nonempty, lands, walks⟩ := join_walks linkFree above ⟨name⟩ place (name_relative name named) located
  rw [name_segments name named, arrival_named place [name] (by simpa using named)] at lands
  have passable : disk.Passable place [name] := by simpa [Passable, passed] using held
  rw [name_segments name named] at walks
  have grows : Grows (fun _ => False) (· = disk.landing (above.join ⟨name⟩)) disk
      (disk.put (place ++ [name]) (.directory [])) :=
    put_grows place name _ Node.bare_directory held absent (.inr ⟨rfl, lands.symm⟩)
  have stands : (disk.put (place ++ [name]) (.directory [])).kindAt (disk.landing (above.join ⟨name⟩)) =
      some .directory := by
    rw [lands, kind_at_put disk place name _ Node.bare_directory held, if_pos rfl]
    rfl
  refine ⟨join_anchored above name absolute named, lands ▸ absent, grows, stands, ?_⟩
  refine (locate_iff (grows_link_free grows linkFree) _ _).mpr ⟨nonempty, (grows_landing grows _).symm, ?_, ?_⟩
  · rw [grows_origin grows]
    exact grows_passable grows _ _ (walks.mpr passable)
  · rw [stands]
    exact Option.some_ne_none _

end

end ScriptSuite.FileSystem.Disk
